import Referent.Json.Record
import Referent.Proofs.Except
import Referent.Proofs.Json.Layout
import Referent.Proofs.Json.Scalars

/-!
# Reading laid out values

Whatever the layout of a value, reading gives the value. A list of items or fields is read one after
the other, so what is proved of a value holds with any text behind it, as long as that text cannot
be part of a number.

Results:
* `readValue_of_layout`: a layout of a value is read as the value.
* `decodeText_of_layout`: reading a layout of a portable value gives what the value holds.
-/

namespace Referent.Json

/-! ## Space -/

theorem skipSpace_append {gap : List Char} (hgap : Spaces gap) (cs : List Char) :
    skipSpace (gap ++ cs) = skipSpace cs :=
  List.dropWhile_append_of_pos hgap

theorem skipSpace_cons {c : Char} (hc : isSpace c = false) (cs : List Char) :
    skipSpace (c :: cs) = c :: cs :=
  List.dropWhile_cons_of_neg (by simp [hc])

/-! ## Readings -/

/-- Reading gives all of a value and leaves the rest. -/
def Reading.IsWhole {α : Type} {cs : List Char} (r : Reading α cs) (value : α)
    (rest : List Char) : Prop :=
  ∃ h, r = .whole value rest h

theorem Reading.IsWhole.widen {α β : Type} {cs ds rest : List Char} {r : Reading α cs} {value : α}
    (h : r.IsWhole value rest) (f : α → β) (hlength : cs.length < ds.length) :
    (r.widen f hlength).IsWhole (f value) rest := by
  obtain ⟨hshorter, rfl⟩ := h
  exact ⟨_, rfl⟩

/-! ## Values by their first characters

What `readValue` has looked at stands in the proofs that it carries, so its text cannot be rewritten.
Each proof splits on the first character instead and rules the other ones out. -/

theorem readValue_of_quote {cs tail rest : List Char} {text : String}
    (hstart : skipSpace cs = '"' :: tail)
    (htext : ∃ h, readText tail = some ⟨some text, rest, h⟩) :
    (readValue cs).IsWhole (.string text) rest := by
  obtain ⟨hshorter, htext⟩ := htext
  rw [readValue]
  split
  case h_2 tail' hstart' =>
    rw [hstart] at hstart'
    cases hstart'
    split
    case h_1 hnone => rw [htext] at hnone; cases hnone
    case h_2 text' hsome =>
      rw [htext] at hsome
      cases hsome
      exact ⟨_, rfl⟩
  all_goals simp_all

theorem readValue_of_noItems {cs tail rest : List Char} (hstart : skipSpace cs = '[' :: tail)
    (hfirst : skipSpace tail = ']' :: rest) : (readValue cs).IsWhole (.array []) rest := by
  rw [readValue]
  split
  case h_3 tail' hstart' =>
    rw [hstart] at hstart'
    cases hstart'
    split
    case h_1 rest' hfirst' =>
      rw [hfirst] at hfirst'
      cases hfirst'
      exact ⟨_, rfl⟩
    case h_2 hne => exact absurd hfirst (hne rest)
  all_goals simp_all

theorem readValue_of_items {cs tail rest : List Char} {vs : List Json}
    (hstart : skipSpace cs = '[' :: tail) (hfirst : ∀ after, skipSpace tail ≠ ']' :: after)
    (hitems : (readItems tail).IsWhole vs rest) : (readValue cs).IsWhole (.array vs) rest := by
  rw [readValue]
  split
  case h_3 tail' hstart' =>
    rw [hstart] at hstart'
    cases hstart'
    split
    case h_1 rest' hfirst' => exact absurd hfirst' (hfirst rest')
    case h_2 hne => exact hitems.widen Json.array (length_lt_of_skipSpace hstart)
  all_goals simp_all

theorem readValue_of_noFields {cs tail rest : List Char} (hstart : skipSpace cs = '{' :: tail)
    (hfirst : skipSpace tail = '}' :: rest) : (readValue cs).IsWhole (.object []) rest := by
  rw [readValue]
  split
  case h_4 tail' hstart' =>
    rw [hstart] at hstart'
    cases hstart'
    split
    case h_1 rest' hfirst' =>
      rw [hfirst] at hfirst'
      cases hfirst'
      exact ⟨_, rfl⟩
    case h_2 hne => exact absurd hfirst (hne rest)
  all_goals simp_all

theorem readValue_of_fields {cs tail rest : List Char} {fs : List (Option String × Json)}
    (hstart : skipSpace cs = '{' :: tail) (hfirst : ∀ after, skipSpace tail ≠ '}' :: after)
    (hfields : (readFields tail).IsWhole fs rest) : (readValue cs).IsWhole (.object fs) rest := by
  rw [readValue]
  split
  case h_4 tail' hstart' =>
    rw [hstart] at hstart'
    cases hstart'
    split
    case h_1 rest' hfirst' => exact absurd hfirst' (hfirst rest')
    case h_2 hne => exact hfields.widen Json.object (length_lt_of_skipSpace hstart)
  all_goals simp_all

theorem readValue_of_scalar {cs tail rest : List Char} {c : Char} {v : Json}
    (hstart : skipSpace cs = c :: tail) (hc : c ≠ '"' ∧ c ≠ '[' ∧ c ≠ '{')
    (hread : ∃ h, (readWord (c :: tail)).or (readNumber (c :: tail)) = some ⟨v, rest, h⟩) :
    (readValue cs).IsWhole v rest := by
  obtain ⟨hshorter, hread⟩ := hread
  rw [readValue]
  split
  case h_1 hstart' => rw [hstart] at hstart'; cases hstart'
  case h_2 hstart' => rw [hstart] at hstart'; exact absurd (List.cons.inj hstart').1 hc.1
  case h_3 hstart' => rw [hstart] at hstart'; exact absurd (List.cons.inj hstart').1 hc.2.1
  case h_4 hstart' => rw [hstart] at hstart'; exact absurd (List.cons.inj hstart').1 hc.2.2
  case h_5 c' tail' _ _ _ hstart' =>
    rw [hstart] at hstart'
    cases hstart'
    split
    case h_1 hnone => rw [hread] at hnone; cases hnone
    case h_2 taken hsome =>
      rw [hread] at hsome
      cases hsome
      exact ⟨_, rfl⟩

/-! ## Items and fields by what stands behind them -/

/-- Behind an item stands the bracket that closes the list, or a comma with more items. -/
def Continues {α : Type} (close : Char) (readMore : (cs : List Char) → Reading (List α) cs)
    (rest : List Char) (more : List α) (after : List Char) : Prop :=
  (skipSpace rest = close :: after ∧ more = []) ∨
    ∃ cs, skipSpace rest = ',' :: cs ∧ (readMore cs).IsWhole more after

theorem readItems_of_value {cs rest after : List Char} {v : Json} {vs : List Json}
    (hvalue : (readValue cs).IsWhole v rest) (hrest : Continues ']' readItems rest vs after) :
    (readItems cs).IsWhole (v :: vs) after := by
  obtain ⟨hshorter, hvalue⟩ := hvalue
  rw [readItems, hvalue]
  simp only
  rcases hrest with ⟨hnext, rfl⟩ | ⟨more, hnext, hitems⟩
  · split
    case h_1 hnext' => rw [hnext] at hnext'; cases hnext'
    case h_2 hnext' =>
      rw [hnext] at hnext'
      cases hnext'
      exact ⟨_, rfl⟩
    case h_3 hne => exact absurd hnext (hne after)
  · split
    case h_1 hnext' =>
      rw [hnext] at hnext'
      cases hnext'
      exact hitems.widen (v :: ·) (Nat.lt_trans (length_lt_of_skipSpace hnext) hshorter)
    case h_2 hnext' => rw [hnext] at hnext'; cases hnext'
    case h_3 hne _ => exact absurd hnext (hne more)

theorem readFields_of_value {cs tail behind inner rest after : List Char} {name : String} {v : Json}
    {fs : List (Option String × Json)} (hstart : skipSpace cs = '"' :: tail)
    (hname : ∃ h, readText tail = some ⟨some name, behind, h⟩)
    (hcolon : skipSpace behind = ':' :: inner) (hvalue : (readValue inner).IsWhole v rest)
    (hrest : Continues '}' readFields rest fs after) :
    (readFields cs).IsWhole ((some name, v) :: fs) after := by
  obtain ⟨hbehind, hname⟩ := hname
  obtain ⟨hshorter, hvalue⟩ := hvalue
  rw [readFields]
  split
  case h_2 hne => exact absurd hstart (hne tail)
  case h_1 tail' hstart' =>
  rw [hstart] at hstart'
  cases hstart'
  split
  case h_1 hnone => rw [hname] at hnone; cases hnone
  case h_2 text hsome =>
  rw [hname] at hsome
  cases hsome
  simp only
  split
  case h_2 hne => exact absurd hcolon (hne inner)
  case h_1 inner' hcolon' =>
  rw [hcolon] at hcolon'
  cases hcolon'
  rw [hvalue]
  simp only
  rcases hrest with ⟨hnext, rfl⟩ | ⟨more, hnext, hfields⟩
  · split
    case h_1 hnext' => rw [hnext] at hnext'; cases hnext'
    case h_2 hnext' =>
      rw [hnext] at hnext'
      cases hnext'
      exact ⟨_, rfl⟩
    case h_3 hne => exact absurd hnext (hne after)
  · split
    case h_1 hnext' =>
      rw [hnext] at hnext'
      cases hnext'
      exact hfields.widen ((some name, v) :: ·) _
    case h_2 hnext' => rw [hnext] at hnext'; cases hnext'
    case h_3 hne _ => exact absurd hnext (hne more)

/-! ## Layouts -/

theorem isSpace_iff {c : Char} : isSpace c = true ↔ c = ' ' ∨ c = '\n' ∨ c = '\t' ∨ c = '\r' := by
  simp [isSpace, or_assoc]

theorem isSpace_of_isDigit {c : Char} (h : c.isDigit = true) : isSpace c = false := by
  rw [Bool.eq_false_iff, ne_eq, isSpace_iff]
  rintro (rfl | rfl | rfl | rfl) <;> cases h

theorem endsNumber_nil : EndsNumber [] := by
  rintro c ⟨⟩

theorem endsNumber_of_isSpace {c : Char} (h : isSpace c = true) (cs : List Char) :
    EndsNumber (c :: cs) := by
  rintro d ⟨⟩
  rcases isSpace_iff.1 h with rfl | rfl | rfl | rfl <;> decide

/-- What stands behind an item of a list is not part of a number. -/
theorem endsNumber_of_spaces {gap cs : List Char} {c : Char} (hgap : Spaces gap)
    (hc : c ∈ [',', ']', '}']) : EndsNumber (gap ++ c :: cs) := by
  cases gap with
  | nil =>
    rintro d ⟨⟩
    simp only [List.mem_cons, List.not_mem_nil, or_false] at hc
    rcases hc with rfl | rfl | rfl <;> decide
  | cons d gap => exact endsNumber_of_isSpace (hgap d List.mem_cons_self) _

theorem Spaces.endsNumber {gap : List Char} (hgap : Spaces gap) : EndsNumber gap := by
  cases gap with
  | nil => exact endsNumber_nil
  | cons d gap => exact endsNumber_of_isSpace (hgap d List.mem_cons_self) gap

/-- The first character of a layout tells it from space and from the end of a list. -/
theorem Layout.exists_cons {cs : List Char} {v : Json} (h : Layout cs v) :
    ∃ c tail, cs = c :: tail ∧ isSpace c = false ∧ c ≠ ']' := by
  cases h with
  | word w => cases w <;> exact ⟨_, _, rfl, rfl, by decide⟩
  | @natural n _ =>
    obtain ⟨d, ds, hds, hdigit⟩ := exists_toDigits_eq_cons n
    exact ⟨d, ds, Nat.toList_repr.trans hds, isSpace_of_isDigit hdigit, by rintro rfl; cases hdigit⟩
  | string text => exact ⟨'"', _, by rw [quote, String.toList_ofList]; rfl, rfl, by decide⟩
  | noItems => exact ⟨_, _, rfl, rfl, by decide⟩
  | items => exact ⟨_, _, rfl, rfl, by decide⟩
  | noFields => exact ⟨_, _, rfl, rfl, by decide⟩
  | fields => exact ⟨_, _, rfl, rfl, by decide⟩

theorem ItemsLayout.skipSpace_ne {cs : List Char} {vs : List Json} (h : ItemsLayout cs vs)
    (rest after : List Char) : skipSpace (cs ++ rest) ≠ ']' :: after := by
  have hne : ∀ {before ds : List Char} {v : Json}, Spaces before → Layout ds v →
      ∀ more, skipSpace (before ++ (ds ++ more)) ≠ ']' :: after := by
    intro before ds v hbefore h more heq
    obtain ⟨c, tail, rfl, hspace, hc⟩ := h.exists_cons
    rw [skipSpace_append hbefore, List.cons_append, skipSpace_cons hspace] at heq
    exact hc (List.cons.inj heq).1
  cases h with
  | one hbefore h =>
    rw [List.append_assoc]
    exact hne hbefore h _
  | more hbefore h =>
    rw [List.append_assoc, List.append_assoc]
    exact hne hbefore h _

theorem FieldsLayout.skipSpace_ne {cs : List Char} {fs : List (Option String × Json)}
    (h : FieldsLayout cs fs) (rest after : List Char) : skipSpace (cs ++ rest) ≠ '}' :: after := by
  have hne : ∀ {before : List Char} (name : String), Spaces before →
      ∀ more, skipSpace (before ++ ((quote name).toList ++ more)) ≠ '}' :: after := by
    intro before name hbefore more heq
    obtain ⟨tail, hquote, -⟩ := readText_quote name more
    rw [skipSpace_append hbefore, hquote, skipSpace_cons rfl] at heq
    cases heq
  cases h with
  | one name hbefore =>
    rw [List.append_assoc, List.append_assoc]
    exact hne name hbefore _
  | more name hbefore =>
    rw [List.append_assoc, List.append_assoc]
    exact hne name hbefore _

theorem readValue_spelling (w : Word) {before : List Char} (hbefore : Spaces before)
    (rest : List Char) : (readValue (before ++ (w.spelling ++ rest))).IsWhole w.value rest := by
  have hread := readWord_spelling w rest
  obtain ⟨c, tail, hw, hspace, hc⟩ : ∃ c tail, w.spelling = c :: tail ∧ isSpace c = false ∧
      c ≠ '"' ∧ c ≠ '[' ∧ c ≠ '{' := by
    cases w <;> exact ⟨_, _, rfl, rfl, by decide⟩
  rw [hw, List.cons_append] at hread ⊢
  obtain ⟨hshorter, hread⟩ := hread
  refine readValue_of_scalar ?_ hc ⟨hshorter, ?_⟩
  · rw [skipSpace_append hbefore, skipSpace_cons hspace]
  · rw [hread, Option.some_or]

theorem readValue_toString {n : ℕ} (hn : n < UInt64.size) {before rest : List Char}
    (hbefore : Spaces before) (hrest : EndsNumber rest) :
    (readValue (before ++ ((toString n).toList ++ rest))).IsWhole (.natural n) rest := by
  have hread := readNumber_toString hn hrest
  obtain ⟨d, ds, hds, hdigit⟩ := exists_toDigits_eq_cons n
  have htext : (toString n).toList = d :: ds := Nat.toList_repr.trans hds
  have hd : ∀ {c : Char}, c.isDigit = false → d ≠ c := by
    rintro c hc rfl
    rw [hdigit] at hc
    cases hc
  rw [htext, List.cons_append] at hread ⊢
  obtain ⟨hshorter, hread⟩ := hread
  refine readValue_of_scalar ?_ ⟨hd rfl, hd rfl, hd rfl⟩ ⟨hshorter, ?_⟩
  · rw [skipSpace_append hbefore, skipSpace_cons (isSpace_of_isDigit hdigit)]
  · rw [readWord_eq_none ⟨hd rfl, hd rfl, hd rfl⟩, Option.none_or, hread]

theorem readValue_quote (text : String) {before : List Char} (hbefore : Spaces before)
    (rest : List Char) :
    (readValue (before ++ ((quote text).toList ++ rest))).IsWhole (.string text) rest := by
  obtain ⟨tail, hquote, htext⟩ := readText_quote text rest
  refine readValue_of_quote ?_ htext
  rw [skipSpace_append hbefore, hquote, skipSpace_cons rfl]

theorem readFields_quote (name : String) {before between cs rest after : List Char} {v : Json}
    {fs : List (Option String × Json)} (hbefore : Spaces before) (hbetween : Spaces between)
    (hvalue : (readValue cs).IsWhole v rest) (hrest : Continues '}' readFields rest fs after) :
    (readFields (before ++ ((quote name).toList ++ (between ++ ':' :: cs)))).IsWhole
      ((some name, v) :: fs) after := by
  obtain ⟨tail, hquote, htext⟩ := readText_quote name (between ++ ':' :: cs)
  refine readFields_of_value ?_ htext ?_ hvalue hrest
  · rw [skipSpace_append hbefore, hquote, skipSpace_cons rfl]
  · rw [skipSpace_append hbetween, skipSpace_cons rfl]

mutual

/-- A layout of a value is read as the value. -/
theorem readValue_of_layout : ∀ {cs : List Char} {v : Json}, Layout cs v →
    ∀ {before rest : List Char}, Spaces before → EndsNumber rest →
      (readValue (before ++ (cs ++ rest))).IsWhole v rest
  | _, _, .word w, before, rest, hbefore, _ => readValue_spelling w hbefore rest
  | _, _, .natural hn, before, rest, hbefore, hrest => readValue_toString hn hbefore hrest
  | _, _, .string text, before, rest, hbefore, _ => readValue_quote text hbefore rest
  | _, _, .noItems hgap, before, rest, hbefore, _ => by
    rw [List.cons_append, List.append_assoc, List.singleton_append]
    refine readValue_of_noItems ((skipSpace_append hbefore _).trans (skipSpace_cons rfl _)) ?_
    rw [skipSpace_append hgap, skipSpace_cons rfl]
  | _, _, .items h hgap, before, rest, hbefore, _ => by
    rw [List.cons_append, List.append_assoc, List.append_assoc, List.singleton_append]
    exact readValue_of_items ((skipSpace_append hbefore _).trans (skipSpace_cons rfl _))
      (h.skipSpace_ne _) (readItems_of_layout h hgap rest)
  | _, _, .noFields hgap, before, rest, hbefore, _ => by
    rw [List.cons_append, List.append_assoc, List.singleton_append]
    refine readValue_of_noFields ((skipSpace_append hbefore _).trans (skipSpace_cons rfl _)) ?_
    rw [skipSpace_append hgap, skipSpace_cons rfl]
  | _, _, .fields h hgap, before, rest, hbefore, _ => by
    rw [List.cons_append, List.append_assoc, List.append_assoc, List.singleton_append]
    exact readValue_of_fields ((skipSpace_append hbefore _).trans (skipSpace_cons rfl _))
      (h.skipSpace_ne _) (readFields_of_layout h hgap rest)

theorem readItems_of_layout : ∀ {cs : List Char} {vs : List Json}, ItemsLayout cs vs →
    ∀ {gap : List Char}, Spaces gap → ∀ (after : List Char),
      (readItems (cs ++ (gap ++ ']' :: after))).IsWhole vs after
  | _, _, .one hbefore h, gap, hgap, after => by
    rw [List.append_assoc]
    refine readItems_of_value (readValue_of_layout h hbefore (endsNumber_of_spaces hgap ?_))
      (.inl ⟨?_, rfl⟩)
    · decide
    · rw [skipSpace_append hgap, skipSpace_cons rfl]
  | _, _, .more hbefore h hafter hvs, gap, hgap, after => by
    rw [List.append_assoc, List.append_assoc, List.append_assoc, List.cons_append]
    refine readItems_of_value (readValue_of_layout h hbefore (endsNumber_of_spaces hafter ?_))
      (.inr ⟨_, ?_, readItems_of_layout hvs hgap after⟩)
    · decide
    · rw [skipSpace_append hafter, skipSpace_cons rfl]

theorem readFields_of_layout : ∀ {cs : List Char} {fs : List (Option String × Json)},
    FieldsLayout cs fs → ∀ {gap : List Char}, Spaces gap → ∀ (after : List Char),
      (readFields (cs ++ (gap ++ '}' :: after))).IsWhole fs after
  | _, _, .one name hbefore hbetween hbehind h, gap, hgap, after => by
    rw [List.append_assoc, List.append_assoc, List.append_assoc, List.cons_append,
      List.append_assoc]
    refine readFields_quote name hbefore hbetween
      (readValue_of_layout h hbehind (endsNumber_of_spaces hgap ?_)) (.inl ⟨?_, rfl⟩)
    · decide
    · rw [skipSpace_append hgap, skipSpace_cons rfl]
  | _, _, .more name hbefore hbetween hbehind h hafter hfs, gap, hgap, after => by
    rw [List.append_assoc, List.append_assoc, List.append_assoc, List.cons_append,
      List.append_assoc, List.append_assoc, List.append_assoc, List.cons_append]
    refine readFields_quote name hbefore hbetween
      (readValue_of_layout h hbehind (endsNumber_of_spaces hafter ?_))
      (.inr ⟨_, ?_, readFields_of_layout hfs hgap after⟩)
    · decide
    · rw [skipSpace_append hafter, skipSpace_cons rfl]

end

/-! ## Documents -/

/-- A text that is a layout of a value with space behind it holds the value and nothing else. -/
theorem read_of_layout_append {text : String} {cs gap : List Char} {v : Json}
    (htext : text.toList = cs ++ gap) (h : Layout cs v) (hgap : Spaces gap) :
    read text = ⟨v, true⟩ := by
  have hread := readValue_of_layout h spaces_nil hgap.endsNumber
  rw [List.nil_append, ← htext] at hread
  obtain ⟨hshorter, hread⟩ := hread
  have hend : skipSpace gap = [] := by
    rw [← gap.append_nil, skipSpace_append hgap]
    rfl
  rw [read, hread]
  simp only [hend, List.isEmpty_nil]

theorem read_of_layout {text : String} {v : Json} (h : Layout text.toList v) :
    read text = ⟨v, true⟩ :=
  read_of_layout_append (List.append_nil _).symm h spaces_nil

/-- Of a portable value reading a text that is a layout of it gives all. -/
theorem decodeText_of_layout {α : Type} (decoder : Json → Decoded α) {text : String} {v : Json}
    (h : Layout text.toList v) (hv : Portable nestingLimit v) :
    decodeText decoder text = decoder v := by
  rw [decodeText, read_of_layout h]
  simp only [decode, hv.limited_eq, if_true]
  exact bind_pure (decoder v)

theorem decodeText_compact {α : Type} (decoder : Json → Decoded α) {v : Json}
    (hv : Portable nestingLimit v) : decodeText decoder v.compact = decoder v :=
  decodeText_of_layout decoder hv.layout_compact hv

theorem decodeText_pretty {α : Type} (decoder : Json → Decoded α) {v : Json}
    (hv : Portable nestingLimit v) : decodeText decoder v.pretty = decoder v :=
  decodeText_of_layout decoder hv.layout_pretty hv

/-- A text holds what its value does, if it is read to its end. -/
theorem decodeText_eq_ok_iff {α : Type} {decoder : Json → Decoded α} {text : String} {a : α} :
    decodeText decoder text = .ok a ↔
      decode decoder (Json.read text).root = .ok a ∧ (Json.read text).ended = true := by
  rw [decodeText, bind_eq_ok_iff]
  constructor
  · rintro ⟨b, hread, hb⟩
    split_ifs at hb with hended
    cases hb
    exact ⟨hread, hended⟩
  · rintro ⟨hread, hended⟩
    exact ⟨a, hread, if_pos hended⟩

/-- What a text holds is what some value holds. -/
theorem exists_of_decodeText {α : Type} {decoder : Json → Decoded α} {text : String} {a : α}
    (h : decodeText decoder text = .ok a) : ∃ v, decoder v = .ok a :=
  ⟨_, (decodeText_eq_ok_iff.1 h).1⟩

end Referent.Json
