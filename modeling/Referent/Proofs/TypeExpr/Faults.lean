import Referent.Proofs.TypeExpr.Reading

/-!
# Where a refused type text is blamed

The offset of a parse error splits the text between two characters. What stands before it could
have gone on to a type, for the readers stop at the first character that no type text has there.
Names are the exception: a name is read to its end before its first character is looked at, so that
one that starts with a point is blamed behind the point.

* `ArgumentDue`, `Opening`, `TypeDue` — the texts behind which a type has to come.
* `PointedName` — a name that starts with a point, where a type has to come.
* `Blamed` — what a fault of the readers says about the text before it.

Results:
* `readName_error`, `readBrackets_error`, `readType_error`, `readArgs_error`: the faults of the
  readers.
* `TypeDue.readType_point`: a point where a type has to come is refused, whatever follows it.
* `parse_error_blamed`: the offset is a place between two characters of the text, the text before it
  is the start of a type text except behind such a point, and where only the end was missing it is
  a type text.
-/

namespace Referent.TypeExpr

open Referent.Text (Blanks first?)

/-! ## Bytes -/

theorem foldl_utf8Size (n : ℕ) (cs : List Char) :
    cs.foldl (fun n c => n + c.utf8Size) n = n + (String.ofList cs).utf8ByteSize := by
  induction cs generalizing n with
  | nil => rfl
  | cons c cs ih =>
    have hsplit : String.ofList (c :: cs) = String.singleton c ++ String.ofList cs := by
      rw [String.singleton_eq_ofList, ← String.ofList_append, List.singleton_append]
    rw [List.foldl_cons, ih, hsplit, String.utf8ByteSize_append, String.utf8ByteSize_singleton]
    omega

theorem byteLength_eq (cs : List Char) : byteLength cs = (String.ofList cs).utf8ByteSize := by
  rw [byteLength, foldl_utf8Size, Nat.zero_add]

/-! ## Where a type has to come -/

/-- The text of a generic type up to where an argument has to come. -/
inductive ArgumentDue : List Char → Prop
  | first {bs name bs' : List Char} (hbs : Blanks bs) (hname : IsName name) (hbs' : Blanks bs') :
      ArgumentDue (bs ++ (name ++ (bs' ++ ['<'])))
  | next {front span bs : List Char} {t : TypeExpr} (hfront : ArgumentDue front)
      (hspan : Derives span t) (hbs : Blanks bs) : ArgumentDue (front ++ (span ++ (bs ++ [','])))

/-- The text of a type up to where another type has to come, as its bound or as an argument. -/
inductive Opening : List Char → Prop
  | bound {bs bs' : List Char} (upper : Bool) (hbs : Blanks bs) (hbs' : Blanks bs') :
      Opening (bs ++ '?' :: (bs' ++ boundWord upper))
  | argument {front : List Char} (h : ArgumentDue front) : Opening front

/-- A text up to where a type has to come, any number of types deep, and the blanks there. -/
inductive TypeDue : List Char → Prop
  | blanks {bs : List Char} (hbs : Blanks bs) : TypeDue bs
  | inside {front cs : List Char} (hfront : Opening front) (h : TypeDue cs) : TypeDue (front ++ cs)

/-- The text ends with characters of a name, the first of them a point, where a type has to come. -/
def PointedName (cs : List Char) : Prop :=
  ∃ front name, cs = front ++ '.' :: name ∧ TypeDue front ∧ ∀ c ∈ name, isNameChar c = true

theorem PointedName.inside {front cs : List Char} (hfront : Opening front) (h : PointedName cs) :
    PointedName (front ++ cs) := by
  obtain ⟨front', name, rfl, hdue, hname⟩ := h
  exact ⟨front ++ front', name, (List.append_assoc _ _ _).symm, .inside hfront hdue, hname⟩

/-- The rest of the arguments and a closing bracket make it a type. -/
theorem ArgumentDue.exists_derives {front as bs ds : List Char} {ts : List TypeExpr}
    {k : Dimensions} (hfront : ArgumentDue front) (has : DerivesArgs as ts) (hbs : Blanks bs)
    (hds : Brackets k ds) : ∃ t, Derives (front ++ (as ++ (bs ++ '>' :: ds))) t := by
  induction hfront generalizing as ts with
  | @first bs' name bs'' hbs' hname hbs'' =>
    obtain ⟨u, hu⟩ : ∃ u, Derives (bs' ++ name ++ (bs'' ++ '<' :: (as ++ (bs ++ '>' :: ds)))) u :=
      ⟨_, .generic hbs' hname (denotes_iff.2 rfl) hbs'' has hbs hds⟩
    refine ⟨u, ?_⟩
    simpa using hu
  | @next front span bs' t _ hspan hbs' ih =>
    obtain ⟨u, hu⟩ := ih (.more hspan hbs' has)
    refine ⟨u, ?_⟩
    simpa using hu

/-- A type where one has to come can be completed to a type. -/
theorem Opening.exists_derives {front span : List Char} {t : TypeExpr} (hfront : Opening front)
    (hspan : Derives span t) : ∃ more u, Derives (front ++ (span ++ more)) u := by
  cases hfront with
  | @bound bs bs' upper hbs hbs' =>
    have h : Derives (bs ++ '?' :: (bs' ++ boundWord upper ++ span)) (.bounded upper t) :=
      .bounded hbs hbs' hspan
    refine ⟨[], .bounded upper t, ?_⟩
    simpa using h
  | argument h => exact ⟨_, h.exists_derives (.one hspan) Text.blanks_nil brackets_zero⟩

/-! ## The faults of the readers -/

/-- The fault stands behind a text that could have gone on to a type, or it wants a type name
behind one that starts with a point. -/
structure Blamed (cs : List Char) (fault : Fault) : Prop where
  wanted_ne : fault.wanted ≠ .endOfText
  split : ∃ before, cs = before ++ fault.rest ∧
    ((∃ more t, Derives (before ++ more) t) ∨ fault.wanted = .typeName ∧ PointedName before)

theorem Blamed.inside {front cs : List Char} {fault : Fault} (hfront : Opening front)
    (h : Blamed cs fault) : Blamed (front ++ cs) fault := by
  obtain ⟨hwanted, before, rfl, hbefore⟩ := h
  refine ⟨hwanted, front ++ before, (List.append_assoc _ _ _).symm, ?_⟩
  rcases hbefore with ⟨more, t, ht⟩ | ⟨hname, hpointed⟩
  · obtain ⟨more', u, hu⟩ := hfront.exists_derives ht
    refine .inl ⟨more ++ more', u, ?_⟩
    rw [List.append_assoc, ← List.append_assoc before]
    exact hu
  · exact .inr ⟨hname, hpointed.inside hfront⟩

theorem readName_error {cs : List Char} {fault : Fault} (h : readName cs = .error fault) :
    Blamed cs fault := by
  unfold readName at h
  dsimp only at h
  split_ifs at h with hname
  cases h
  obtain ⟨bs, hbs, hcs⟩ := Text.exists_blanks_append cs
  generalize Text.skipBlanks cs = start at hname hcs
  have hchars : ∀ c ∈ start.takeWhile isNameChar, isNameChar c = true := fun c hc =>
    List.mem_takeWhile_imp hc
  refine ⟨by simp, bs ++ start.takeWhile isNameChar, ?_, ?_⟩
  · rw [List.append_assoc, List.takeWhile_append_dropWhile]
    exact hcs
  rw [isTypeName_iff] at hname
  generalize start.takeWhile isNameChar = name at hname hchars
  by_cases hpoint : name.head? = some '.'
  · obtain ⟨rest, rfl⟩ := List.head?_eq_some_iff.1 hpoint
    exact .inr ⟨rfl, bs, rest, rfl, .blanks hbs, fun c hc => hchars c (List.mem_cons_of_mem _ hc)⟩
  · -- With one more letter the name is neither empty nor ends with a point.
    have hlonger : IsName (name ++ ['T']) := by
      refine ⟨by simp, fun c hc => ?_, ?_, by simp⟩
      · rcases List.mem_append.1 hc with hc | hc
        · exact isNameChar_iff.1 (hchars c hc)
        · rw [List.mem_singleton.1 hc]
          exact isNameChar_iff.1 (by decide +kernel)
      · cases name with
        | nil => decide
        | cons c name => exact hpoint
    obtain ⟨t, ht⟩ : ∃ t, Derives (bs ++ (name ++ ['T']) ++ []) t :=
      ⟨_, .plain hbs hlonger (denotes_iff.2 rfl) brackets_zero⟩
    refine .inl ⟨['T'], t, ?_⟩
    simpa using ht

/-- Brackets behind a text that makes a type with any number of them that can be counted. -/
theorem readBrackets_error {front cs : List Char} {t : TypeExpr} {fault : Fault}
    (hfront : ∀ k ds, Brackets k ds → k ≤ t.room → ∃ u, Derives (front ++ ds) u)
    (h : readBrackets t cs = .error fault) : Blamed (front ++ cs) fault := by
  rw [readBrackets] at h
  split at h
  · cases h
  rename_i hfull
  have hroom := room_arrayOf (Bool.eq_false_iff.2 hfull)
  split at h
  · cases h
  · rename_i opened hopened
    obtain ⟨_, inner, hinner⟩ := opened
    obtain ⟨bs, hbs, hcs⟩ := Token.exists_of_take? hopened
    change cs = bs ++ '[' :: inner at hcs
    split at h
    · cases h
      dsimp only
      obtain ⟨bs', hbs', hinner'⟩ := Text.exists_blanks_append inner
      generalize Text.skipBlanks inner = rest at hinner' ⊢
      obtain ⟨u, hu⟩ := hfront 1 _ (.pair hbs hbs' .none) (by omega)
      refine ⟨by simp, front ++ (bs ++ '[' :: bs'), ?_, .inl ⟨[']'], u, ?_⟩⟩
      · rw [hcs, hinner']
        simp
      · simpa using hu
    · rename_i closed hclosed
      obtain ⟨_, after, hafter⟩ := closed
      obtain ⟨bs', hbs', hinner'⟩ := Token.exists_of_take? hclosed
      change inner = bs' ++ ']' :: after at hinner'
      have hlt : after.length < cs.length := Nat.lt_trans hafter hinner
      rcases bind_eq_error_iff.1 h with h | ⟨a, -, h⟩
      · have hfront' : ∀ k ds, Brackets k ds → k ≤ t.arrayOf.room →
            ∃ u, Derives (front ++ (bs ++ '[' :: (bs' ++ [']'])) ++ ds) u := by
          intro k ds hds hk
          obtain ⟨u, hu⟩ := hfront (k + 1) _ (.pair hbs hbs' hds) (by omega)
          refine ⟨u, ?_⟩
          simpa using hu
        have hblamed := readBrackets_error hfront' h
        dsimp only at hblamed
        rw [hcs, hinner']
        simpa using hblamed
      · cases h
termination_by cs.length

-- The recursion follows the readers, on the length of the text.
mutual

theorem readType_error {cs : List Char} {fault : Fault} (h : readType cs = .error fault) :
    Blamed cs fault := by
  rw [readType] at h
  split at h
  · cases h
  · split at h
    · rename_i mark hmark
      obtain ⟨_, inner, hinner⟩ := mark
      obtain ⟨bs, hbs, hcs⟩ := Token.exists_of_take? hmark
      change cs = bs ++ '?' :: inner at hcs
      split at h
      · cases h
      · rename_i word hword
        obtain ⟨upper, after, hafter⟩ := word
        obtain ⟨bs', hbs', hinner'⟩ := exists_of_boundWord? hword
        change inner = bs' ++ (boundWord upper ++ after) at hinner'
        have hlt : after.length < cs.length := Nat.lt_trans hafter hinner
        rcases bind_eq_error_iff.1 h with h | ⟨bound, -, h⟩
        · have hblamed := (readType_error h).inside (.bound upper hbs hbs')
          dsimp only at hblamed
          rw [hcs, hinner']
          simpa using hblamed
        · cases h
    · rcases bind_eq_error_iff.1 h with h | ⟨⟨value, after, hafter⟩, hname, h⟩
      · exact readName_error h
      obtain ⟨bs, name, hbs, hname', hcs, rfl⟩ := exists_of_readName hname
      change cs = bs ++ (name ++ after) at hcs
      split at h
      · rcases bind_eq_error_iff.1 h with h | ⟨brackets, -, h⟩
        · have hfront : ∀ k ds, Brackets k ds → k ≤ (ofName (String.ofList name)).room →
              ∃ u, Derives (bs ++ name ++ ds) u := by
            intro k ds hds hk
            rw [room_of_not_array (ofName_ne_array _)] at hk
            exact ⟨_, .plain hbs hname' (denotes_iff.2 rfl) (hds.natCast hk)⟩
          have hblamed := readBrackets_error hfront h
          rw [hcs, ← List.append_assoc]
          exact hblamed
        · cases h
      · rename_i opened hopened
        obtain ⟨_, inner, hinner⟩ := opened
        obtain ⟨bs', hbs', hafter'⟩ := Token.exists_of_take? hopened
        change after = bs' ++ '<' :: inner at hafter'
        have hfront : ArgumentDue (bs ++ (name ++ (bs' ++ ['<']))) := .first hbs hname' hbs'
        have hcs : cs = bs ++ (name ++ (bs' ++ ['<'])) ++ inner := by
          rw [hcs, hafter']
          simp
        have hlt : inner.length < cs.length := Nat.lt_trans hinner hafter
        rcases bind_eq_error_iff.1 h with h | ⟨⟨first, more, hmore⟩, hfirst, h⟩
        · rw [hcs]
          exact (readType_error h).inside (.argument hfront)
        have hlt' : more.length < cs.length := Nat.lt_trans hmore hlt
        obtain ⟨span, hspan, hinner'⟩ := exists_of_readType hfirst
        change inner = span ++ more at hinner'
        rcases bind_eq_error_iff.1 h with h | ⟨⟨others, close, hclose⟩, hothers, h⟩
        · rw [hcs, hinner']
          exact readArgs_error hfront hspan h
        rcases bind_eq_error_iff.1 h with h | ⟨brackets, -, h⟩
        · obtain ⟨as, bs'', has, hbs'', hspan'⟩ := exists_of_readArgs hothers hspan
          change readBrackets _ close = .error fault at h
          change span ++ more = as ++ (bs'' ++ '>' :: close) at hspan'
          have hfront' : ∀ k ds, Brackets k ds → k ≤ Dimensions.greatest →
              ∃ u, Derives (bs ++ (name ++ (bs' ++ ['<'])) ++ (as ++ (bs'' ++ ['>'])) ++ ds) u := by
            intro k ds hds hk
            obtain ⟨u, hu⟩ := hfront.exists_derives has hbs'' (hds.natCast hk)
            refine ⟨u, ?_⟩
            simpa using hu
          have hblamed := readBrackets_error (t := .generic _ _) hfront' h
          rw [hcs, hinner', hspan']
          simpa using hblamed
        · cases h
termination_by cs.length

/-- The arguments behind a first one. -/
theorem readArgs_error {front span cs : List Char} {t : TypeExpr} {fault : Fault}
    (hfront : ArgumentDue front) (hspan : Derives span t) (h : readArgs cs = .error fault) :
    Blamed (front ++ (span ++ cs)) fault := by
  rw [readArgs] at h
  split at h
  · rename_i comma hcomma
    obtain ⟨_, inner, hinner⟩ := comma
    obtain ⟨bs, hbs, hcs⟩ := Token.exists_of_take? hcomma
    change cs = bs ++ ',' :: inner at hcs
    have hnext : ArgumentDue (front ++ (span ++ (bs ++ [',']))) := .next hfront hspan hbs
    have hcs : front ++ (span ++ cs) = front ++ (span ++ (bs ++ [','])) ++ inner := by
      rw [hcs]
      simp
    rw [hcs]
    rcases bind_eq_error_iff.1 h with h | ⟨⟨first, more, hmore⟩, hfirst, h⟩
    · exact (readType_error h).inside (.argument hnext)
    have hlt' : more.length < cs.length := Nat.lt_trans hmore hinner
    obtain ⟨span', hspan', hinner'⟩ := exists_of_readType hfirst
    change inner = span' ++ more at hinner'
    rcases bind_eq_error_iff.1 h with h | ⟨others, -, h⟩
    · rw [hinner']
      exact readArgs_error hnext hspan' h
    · cases h
  · split at h
    · cases h
    · cases h
      obtain ⟨bs, hbs, hcs⟩ := Text.exists_blanks_append cs
      generalize Text.skipBlanks cs = rest at hcs ⊢
      obtain ⟨u, hu⟩ := hfront.exists_derives (.one hspan) hbs brackets_zero
      refine ⟨by simp, front ++ (span ++ bs), ?_, .inl ⟨['>'], u, ?_⟩⟩
      · rw [hcs]
        simp
      · simpa using hu
termination_by cs.length

end

/-! ## A point where a type has to come -/

/-- The arguments are refused with this fault, either the first one or those behind it. -/
def RefusesArguments (cs : List Char) (fault : Fault) : Prop :=
  readType cs = .error fault ∨
    ∃ t rest hlt, readType cs = .ok ⟨t, rest, hlt⟩ ∧ readArgs rest = .error fault

theorem ArgumentDue.readType_eq_error {front cs : List Char} {fault : Fault}
    (hfront : ArgumentDue front) (h : RefusesArguments cs fault) :
    readType (front ++ cs) = .error fault := by
  induction hfront generalizing cs with
  | @first bs name bs' hbs hname hbs' =>
    have hcs : bs ++ (name ++ (bs' ++ ['<'])) ++ cs = bs ++ (name ++ (bs' ++ '<' :: cs)) := by
      simp
    obtain ⟨hunknown, hmark⟩ := no_token_of_name hbs hname hcs
    obtain ⟨hlt, hread⟩ := readName_of_eq hbs hname (isNameChar_head_openAngle hbs' cs) hcs
    obtain ⟨hlt', hopen⟩ : ∃ h, Token.openAngle.take? (bs' ++ '<' :: cs) =
        some ⟨.openAngle, cs, h⟩ := Token.openAngle.take?_char rfl hbs' rfl
    rw [readType, hunknown]
    dsimp only
    rw [hmark]
    dsimp only
    rw [hread, ok_bind]
    dsimp only
    rw [hopen]
    dsimp only
    rcases h with hfirst | ⟨t, rest, hlt'', hfirst, hothers⟩
    · rw [hfirst]
      rfl
    · rw [hfirst, ok_bind]
      dsimp only
      rw [hothers]
      rfl
  | @next front span bs t _ hspan hbs ih =>
    have hcs : front ++ (span ++ (bs ++ [','])) ++ cs = front ++ (span ++ (bs ++ ',' :: cs)) := by
      simp
    obtain ⟨hlt, hread⟩ := readType_of_eq hspan (stops_comma hbs cs) rfl
    obtain ⟨hlt', hcomma⟩ : ∃ h, Token.comma.take? (bs ++ ',' :: cs) = some ⟨.comma, cs, h⟩ :=
      Token.comma.take?_char rfl hbs rfl
    rw [hcs]
    refine ih (.inr ⟨t, _, hlt, hread, ?_⟩)
    rw [readArgs, hcomma]
    dsimp only
    rcases h with hfirst | ⟨u, rest, hlt'', hfirst, hothers⟩
    · rw [hfirst]
      rfl
    · rw [hfirst, ok_bind]
      dsimp only
      rw [hothers]
      rfl

/-- A fault inside a type is the fault of that type. -/
theorem Opening.readType_eq_error {front cs : List Char} {fault : Fault} (hfront : Opening front)
    (h : readType cs = .error fault) : readType (front ++ cs) = .error fault := by
  cases hfront with
  | @bound bs bs' upper hbs hbs' =>
    have hcs : bs ++ '?' :: (bs' ++ boundWord upper) ++ cs =
        bs ++ '?' :: (bs' ++ (boundWord upper ++ cs)) := by
      simp
    obtain ⟨hlt, hmark⟩ := Token.questionMark.take?_char rfl hbs hcs
    obtain ⟨hlt', hword⟩ : ∃ h, boundWord? (bs' ++ (boundWord upper ++ cs)) =
        some ⟨upper, cs, h⟩ := boundWord?_of_eq hbs' rfl
    rw [readType, unknownType_of_questionMark hbs hcs, hmark]
    dsimp only
    rw [hword]
    dsimp only
    rw [h]
    rfl
  | argument hfront => exact hfront.readType_eq_error (.inl h)

/-- A point where a type has to come is refused, behind the name that it starts. -/
theorem TypeDue.readType_point {front : List Char} (h : TypeDue front) (cs : List Char) :
    readType (front ++ '.' :: cs) = .error ⟨.typeName, cs.dropWhile isNameChar⟩ := by
  induction h with
  | @blanks bs hbs =>
    have hfirst : first? (bs ++ '.' :: cs) = some '.' := by
      rw [Text.first?_append hbs, Text.first?_cons rfl]
    have hskip : Text.skipBlanks (bs ++ '.' :: cs) = '.' :: cs := by
      rw [Text.skipBlanks_append hbs, Text.skipBlanks_cons rfl]
    have hname : ¬isTypeName ('.' :: cs.takeWhile isNameChar) = true := by
      rw [isTypeName_iff]
      exact fun h => h.2.1 rfl
    have hpoint : isNameChar '.' = true := by decide +kernel
    rw [readType, Token.take?_eq_none (by rw [hfirst]; decide)]
    dsimp only
    rw [Token.take?_eq_none (by rw [hfirst]; decide)]
    dsimp only
    unfold readName
    simp only [hskip, List.takeWhile_cons_of_pos hpoint, List.dropWhile_cons_of_pos hpoint]
    rw [dif_neg hname]
    rfl
  | @inside front front' hfront _ ih =>
    rw [List.append_assoc]
    exact hfront.readType_eq_error ih

theorem PointedName.not_derivesText {cs : List Char} (h : PointedName cs) (more : List Char)
    (t : TypeExpr) : ¬DerivesText (cs ++ more) t := by
  obtain ⟨front, name, rfl, hfront, -⟩ := h
  rw [← readAll_eq_ok_iff, readAll, List.append_assoc, List.cons_append, hfront.readType_point]
  simp [bind, Except.bind]

/-- The name is blamed at its end, although no text goes on behind its first character. -/
example : parse "?extends.foo" = .error ⟨"?extends.foo", .typeName, 12⟩ := by decide +kernel

/-! ## Whole texts -/

theorem readAll_error {cs : List Char} {fault : Fault} (h : readAll cs = .error fault) :
    ∃ before, cs = before ++ fault.rest ∧
      ((∃ more t, DerivesText (before ++ more) t) ∨
        fault.wanted = .typeName ∧ PointedName before) ∧
      (fault.wanted = .endOfText →
        ∃ t rest hlt, readType cs = .ok ⟨t, rest, hlt⟩ ∧ DerivesText before t) := by
  unfold readAll at h
  rcases bind_eq_error_iff.1 h with h | ⟨⟨t, rest, hlt⟩, hread, h⟩
  · obtain ⟨hwanted, before, hcs, hbefore⟩ := readType_error h
    refine ⟨before, hcs, hbefore.imp_left ?_, fun h => absurd h hwanted⟩
    rintro ⟨more, t, ht⟩
    exact ⟨more, t, before ++ more, [], (List.append_nil _).symm, ht, Text.blanks_nil⟩
  · obtain ⟨span, hspan, hcs⟩ := exists_of_readType hread
    obtain ⟨bs, hbs, hrest⟩ := Text.exists_blanks_append rest
    dsimp only at h
    split at h
    · cases h
    · cases h
      have ht : DerivesText (span ++ bs) t := ⟨span, bs, rfl, hspan, hbs⟩
      refine ⟨span ++ bs, ?_, .inl ⟨[], t, ?_⟩, fun _ => ⟨t, rest, hlt, hread, ht⟩⟩
      · rw [List.append_assoc, ← hrest]
        exact hcs
      · rw [List.append_nil]
        exact ht

/-- The offset of a parse error is a place between two characters of the text. What stands before it
is the start of a type text, unless a type name is wanted and the name up to there starts with a
point. If a type was read and the text goes on, what stands before the offset is a text of that
type. -/
theorem parse_error_blamed {text : String} {e : ParseError} (h : parse text = .error e) :
    e.offset ≤ text.utf8ByteSize ∧ String.Pos.Raw.IsValid text ⟨e.offset⟩ ∧
      ∃ before rest, text = before ++ rest ∧ before.utf8ByteSize = e.offset ∧
        ((∃ more t, parse (before ++ more) = .ok t) ↔
          ¬(e.wanted = .typeName ∧ PointedName before.toList)) ∧
        (e.wanted = .endOfText →
          ∃ t left hlt, readType text.toList = .ok ⟨t, left, hlt⟩ ∧ parse before = .ok t) := by
  obtain ⟨fault, hfault, rfl⟩ : ∃ fault, readAll text.toList = .error fault ∧
      e = ⟨text, fault.wanted, byteLength text.toList - byteLength fault.rest⟩ := by
    rw [parse] at h
    cases hread : readAll text.toList with
    | ok t =>
      rw [hread] at h
      cases h
    | error fault =>
      rw [hread] at h
      cases h
      exact ⟨fault, rfl, rfl⟩
  obtain ⟨before, hcs, hbefore, hend⟩ := readAll_error hfault
  have htext : text = String.ofList before ++ String.ofList fault.rest := by
    rw [← String.ofList_append, ← hcs, String.ofList_toList]
  have hsize : (String.ofList before).utf8ByteSize =
      byteLength text.toList - byteLength fault.rest := by
    rw [byteLength_eq, byteLength_eq, String.ofList_toList, htext, String.utf8ByteSize_append]
    omega
  dsimp only
  rw [← hsize]
  refine ⟨?_, ?_, String.ofList before, String.ofList fault.rest, htext, rfl, ?_, ?_⟩
  · rw [htext, String.utf8ByteSize_append]
    omega
  · exact String.Pos.Raw.isValid_iff_exists_append.2 ⟨_, _, htext, rfl⟩
  · rw [String.toList_ofList]
    constructor
    · rintro ⟨more, t, ht⟩ ⟨-, hpointed⟩
      rw [parse_eq_ok_iff, String.toList_append, String.toList_ofList] at ht
      exact hpointed.not_derivesText _ _ ht
    · intro hno
      obtain ⟨more, t, ht⟩ := hbefore.resolve_right hno
      refine ⟨String.ofList more, t, ?_⟩
      rw [parse_eq_ok_iff, String.toList_append, String.toList_ofList, String.toList_ofList]
      exact ht
  · intro hwanted
    obtain ⟨t, left, hlt, hread, ht⟩ := hend hwanted
    refine ⟨t, left, hlt, hread, ?_⟩
    rw [parse_eq_ok_iff, String.toList_ofList]
    exact ht

/-- A bracket that is not closed, behind letters of more than one byte. -/
theorem parse_error_blamed_bracket :
    let text := "Größe<int[)"
    let e : ParseError := ⟨text, .closingBracket, 12⟩
    parse text = .error e ∧ String.Pos.Raw.IsValid text ⟨12⟩ ∧
      ∃ before rest, text = before ++ rest ∧ before.utf8ByteSize = 12 ∧
        ∃ more t, parse (before ++ more) = .ok t := by
  intro text e
  have herror : parse text = .error e := by decide +kernel
  obtain ⟨-, hvalid, before, rest, htext, hsize, hviable, -⟩ := parse_error_blamed herror
  refine ⟨herror, hvalid, before, rest, htext, hsize, hviable.2 ?_⟩
  rintro ⟨hwanted, -⟩
  cases hwanted

end Referent.TypeExpr
