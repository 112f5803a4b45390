import Referent.TypeExpr.Printer
import Referent.Proofs.TypeExpr.Reading

/-!
# Printing types and reading them back

The types that parsing gives are the well-formed ones: their names are names, nothing is an array of
no dimension, and so on at any depth. Each of them is printed as a text that derives it.

Results:
* `wellFormed_of_derives`: a text derives well-formed types only.
* `WellFormed.derives_text`: a well-formed type is printed as a text that derives it.
* `parse_text_round_trip`: printing and parsing are inverse on these types, and on no others.
-/

namespace Referent.TypeExpr

open Referent.Text (Blanks)

/-! ## Well-formed types -/

/-- A type that is written as a name alone. -/
def isBare : TypeExpr → Bool
  | .basic _ | .declared _ => true
  | _ => false

/-- A generic type. -/
def isGeneric : TypeExpr → Bool
  | .generic _ _ => true
  | _ => false

/-- The type is one that can be written: basic types are the primitive ones and `null`, declared
types have other names, generic types have a bare base and arguments, arrays have dimensions and are
arrays of no other kind of type, and a wildcard without a bound is an upper one. -/
inductive WellFormed : TypeExpr → Prop
  | basic {name : String} (h : name ∈ primitiveNames ∨ name = nullName) : WellFormed (.basic name)
  | declared {name : String} (hname : IsName name.toList)
      (h : ¬(name ∈ primitiveNames ∨ name = nullName)) : WellFormed (.declared name)
  | generic {base : TypeExpr} {args : List TypeExpr} (hbase : WellFormed base)
      (hbare : base.isBare = true) (hne : args ≠ []) (hargs : ∀ a ∈ args, WellFormed a) :
      WellFormed (.generic base args)
  | array {element : TypeExpr} {dimensions : Dimensions} (helement : WellFormed element)
      (hkind : element.isBare = true ∨ element.isGeneric = true) (hdimensions : 1 ≤ dimensions) :
      WellFormed (.array element dimensions)
  | wildcard : WellFormed (.wildcard true)
  | bounded {upper : Bool} {bound : TypeExpr} (h : WellFormed bound) :
      WellFormed (.bounded upper bound)
  | unknown : WellFormed .unknown

theorem wellFormed_declared_iff {name : String} : WellFormed (.declared name) ↔
    (isTypeName name.toList = true ∧ name.toList.all isNameChar = true) ∧
      ¬isBasicName name = true := by
  rw [← isName_iff, isBasicName_iff]
  constructor
  · rintro (_ | ⟨hname, h⟩)
    exact ⟨hname, h⟩
  · exact fun ⟨hname, h⟩ => .declared hname h

theorem WellFormed.withDimensions {t : TypeExpr} (h : WellFormed t)
    (hkind : t.isBare = true ∨ t.isGeneric = true) (k : Dimensions) :
    WellFormed (t.withDimensions k) := by
  unfold TypeExpr.withDimensions
  split_ifs with hk
  · exact h
  · exact .array h hkind (Dimensions.one_le_iff.2 hk)

theorem Denotes.isBare {name : String} {t : TypeExpr} (h : Denotes name t) : t.isBare = true := by
  cases h <;> rfl

theorem Denotes.wellFormed {name : List Char} {t : TypeExpr} (h : Denotes (String.ofList name) t)
    (hname : IsName name) : WellFormed t := by
  cases h with
  | basic h => exact .basic h
  | declared h => exact .declared (by rwa [String.toList_ofList]) h

mutual

/-- A text derives well-formed types only. -/
theorem wellFormed_of_derives : ∀ {cs : List Char} {t : TypeExpr}, Derives cs t → WellFormed t
  | _, _, .unknown _ => .unknown
  | _, _, .wildcard _ => .wildcard
  | _, _, .bounded _ _ h => .bounded (wellFormed_of_derives h)
  | _, _, .plain _ hname ht _ => (ht.wellFormed hname).withDimensions (.inl ht.isBare) _
  | _, _, .generic _ hname ht _ hargs _ _ =>
    have ⟨hne, hall⟩ := wellFormed_of_derivesArgs hargs
    (WellFormed.generic (ht.wellFormed hname) ht.isBare hne hall).withDimensions (.inr rfl) _

theorem wellFormed_of_derivesArgs : ∀ {as : List Char} {ts : List TypeExpr}, DerivesArgs as ts →
    ts ≠ [] ∧ ∀ t ∈ ts, WellFormed t
  | _, _, .one h => ⟨by simp, by simpa using wellFormed_of_derives h⟩
  | _, _, .more h _ hrest => by
    refine ⟨by simp, List.forall_mem_cons.2 ⟨wellFormed_of_derives h, ?_⟩⟩
    exact (wellFormed_of_derivesArgs hrest).2

end

/-! ## Texts made of texts -/

/-- More blanks at the front do no harm. -/
theorem Derives.blanks {bs cs : List Char} {t : TypeExpr} (hbs : Blanks bs) (h : Derives cs t) :
    Derives (bs ++ cs) t := by
  cases h with
  | unknown hbs' =>
    simpa only [List.append_assoc] using Derives.unknown (hbs.append hbs')
  | wildcard hbs' =>
    simpa only [List.append_assoc] using Derives.wildcard (hbs.append hbs')
  | bounded hbs' hbs'' h =>
    simpa only [List.append_assoc] using Derives.bounded (hbs.append hbs') hbs'' h
  | plain hbs' hname ht hds =>
    simpa only [List.append_assoc] using Derives.plain (hbs.append hbs') hname ht hds
  | generic hbs' hname ht hbs'' hargs hbs''' hds =>
    simpa only [List.append_assoc] using
      Derives.generic (hbs.append hbs') hname ht hbs'' hargs hbs''' hds

theorem DerivesArgs.blanks {bs as : List Char} {ts : List TypeExpr} (hbs : Blanks bs)
    (h : DerivesArgs as ts) : DerivesArgs (bs ++ as) ts := by
  cases h with
  | one h => exact .one (h.blanks hbs)
  | more h hbs' hrest =>
    rw [← List.append_assoc]
    exact .more (h.blanks hbs) hbs' hrest

/-- Only a type without brackets behind it is bare or generic. -/
theorem eq_nil_of_withDimensions {t : TypeExpr} {k : Dimensions} {ds : List Char}
    (hds : Brackets k ds)
    (h : (t.withDimensions k).isBare = true ∨ (t.withDimensions k).isGeneric = true) :
    k = 0 ∧ ds = [] := by
  have hk : k = 0 := by
    by_contra hne
    simp [withDimensions_of_ne hne, isBare, isGeneric] at h
  refine ⟨hk, ?_⟩
  rw [hk] at hds
  exact hds.eq_nil

/-- Brackets behind a type that is no array make it one. -/
theorem Derives.append_brackets {cs ds : List Char} {t : TypeExpr} {k : Dimensions}
    (h : Derives cs t) (hkind : t.isBare = true ∨ t.isGeneric = true) (hds : Brackets k ds) :
    Derives (cs ++ ds) (t.withDimensions k) := by
  cases h with
  | unknown _ => simp [isBare, isGeneric] at hkind
  | wildcard _ => simp [isBare, isGeneric] at hkind
  | bounded _ _ _ => simp [isBare, isGeneric] at hkind
  | plain hbs hname ht hds' =>
    obtain ⟨rfl, rfl⟩ := eq_nil_of_withDimensions hds' hkind
    simpa only [List.append_assoc, List.nil_append, withDimensions_zero] using
      Derives.plain hbs hname ht hds
  | generic hbs hname ht hbs' hargs hbs'' hds' =>
    obtain ⟨rfl, rfl⟩ := eq_nil_of_withDimensions hds' hkind
    simpa only [List.append_assoc, List.cons_append, List.nil_append, withDimensions_zero] using
      Derives.generic hbs hname ht hbs' hargs hbs'' hds

/-! ## Printed types -/

theorem brackets_brackets (n : ℕ) : Brackets n (brackets n).toList := by
  induction n with
  | zero => exact .none
  | succ n ih =>
    have h : (brackets (n + 1)).toList = '[' :: ']' :: (brackets n).toList := by
      simp [brackets, List.replicate_succ, String.toList_join]
    rw [h]
    exact .pair Text.blanks_nil Text.blanks_nil ih

/-- A name derives what it denotes. -/
theorem derives_name {name : String} {t : TypeExpr} (hname : IsName name.toList)
    (ht : Denotes name t) : Derives name.toList t := by
  have h := Derives.plain Text.blanks_nil hname (by rwa [String.ofList_toList]) brackets_zero
  simpa only [List.nil_append, List.append_nil, withDimensions_zero] using h

theorem derivesArgs_argsText : ∀ {args : List TypeExpr}, args ≠ [] →
    (∀ a ∈ args, Derives a.text.toList a) → DerivesArgs (argsText args).toList args
  | [], hne, _ => absurd rfl hne
  | [t], _, h => by
    rw [argsText]
    exact .one (h t List.mem_cons_self)
  | t :: u :: ts, _, h => by
    have hrest : DerivesArgs (argsText (u :: ts)).toList (u :: ts) :=
      derivesArgs_argsText (List.cons_ne_nil u ts) fun a ha => h a (List.mem_cons_of_mem t ha)
    have htext : (argsText (t :: u :: ts)).toList =
        t.text.toList ++ ([] ++ ',' :: ([' '] ++ (argsText (u :: ts)).toList)) := by
      simp [argsText]
    rw [htext]
    exact .more (h t List.mem_cons_self) Text.blanks_nil (hrest.blanks Text.blanks_space)

/-- A bare type is a name that denotes it, and it is printed as that name. -/
theorem WellFormed.exists_name {t : TypeExpr} (h : WellFormed t) (hbare : t.isBare = true) :
    IsName t.text.toList ∧ Denotes t.text t := by
  cases h with
  | basic h =>
    rw [text]
    exact ⟨isName_of_basic h, .basic h⟩
  | declared hname h =>
    rw [text]
    exact ⟨hname, .declared h⟩
  | _ => cases hbare

/-- A well-formed type is printed as a text that derives it. -/
theorem WellFormed.derives_text {t : TypeExpr} (h : WellFormed t) : Derives t.text.toList t := by
  induction h with
  | basic h => exact derives_name (isName_of_basic h) (.basic h)
  | declared hname h => exact derives_name hname (.declared h)
  | @generic base args hbase hbare hne _ _ ih =>
    obtain ⟨hname, hdenotes⟩ := hbase.exists_name hbare
    have htext : (TypeExpr.generic base args).text.toList =
        [] ++ base.text.toList ++ ([] ++ '<' :: ((argsText args).toList ++ ([] ++ '>' :: []))) := by
      simp [text]
    rw [htext]
    exact .generic Text.blanks_nil hname (by rwa [String.ofList_toList]) Text.blanks_nil
      (derivesArgs_argsText hne ih) Text.blanks_nil brackets_zero
  | @array element dimensions _ hkind hdimensions ih =>
    have htext : (TypeExpr.array element dimensions).text.toList =
        element.text.toList ++ (brackets dimensions).toList := by
      rw [text, String.toList_append]
    have h := ih.append_brackets hkind (brackets_brackets dimensions)
    rw [withDimensions_of_ne (Dimensions.one_le_iff.1 hdimensions)] at h
    rwa [htext]
  | wildcard =>
    rw [text]
    exact .wildcard Text.blanks_nil
  | @bounded upper bound _ ih =>
    have htext : (TypeExpr.bounded upper bound).text.toList =
        [] ++ '?' :: ([' '] ++ boundWord upper ++ ([' '] ++ bound.text.toList)) := by
      cases upper <;> simp [text, boundWord]
    rw [htext]
    exact .bounded Text.blanks_nil Text.blanks_space (ih.blanks Text.blanks_space)
  | unknown =>
    rw [text]
    exact .unknown Text.blanks_nil

/-! ## Round trips -/

/-- The text of a well-formed type is read as that type. -/
theorem WellFormed.parse_text {t : TypeExpr} (h : WellFormed t) : parse t.text = .ok t :=
  parse_eq_ok_iff.2 ⟨t.text.toList, [], (List.append_nil _).symm, h.derives_text,
    Text.blanks_nil⟩

/-- The types that parsing gives are the well-formed ones. -/
theorem exists_parse_iff_wellFormed {t : TypeExpr} : (∃ s, parse s = .ok t) ↔ WellFormed t := by
  constructor
  · rintro ⟨s, hs⟩
    obtain ⟨span, bs, -, hspan, -⟩ := parse_eq_ok_iff.1 hs
    exact wellFormed_of_derives hspan
  · exact fun h => ⟨t.text, h.parse_text⟩

/-- Printing and parsing are inverse on the types that parsing gives. These are exactly the
well-formed types, and no two of them are printed as the same text. -/
theorem parse_text_round_trip :
    (∀ s t, parse s = .ok t → parse t.text = .ok t) ∧
      (∀ t, (∃ s, parse s = .ok t) ↔ WellFormed t) ∧
      (∀ t, WellFormed t → parse t.text = .ok t) ∧
      (∀ t u, WellFormed t → WellFormed u → t.text = u.text → t = u) := by
  refine ⟨fun s t h => ?_, fun t => exists_parse_iff_wellFormed, fun t h => h.parse_text,
    fun t u ht hu heq => ?_⟩
  · exact (exists_parse_iff_wellFormed.1 ⟨s, h⟩).parse_text
  · have h : parse t.text = .ok u := heq ▸ hu.parse_text
    exact Except.ok.inj (ht.parse_text.symm.trans h)

/-- An array of a generic type whose argument is bounded by a type that holds `<unknown>`. -/
theorem parse_text_round_trip_nested :
    let text := "Map<K, ? super List<<unknown>>>[][]"
    let t : TypeExpr := .array (.generic (.declared "Map")
      [.declared "K", .bounded false (.generic (.declared "List") [.unknown])]) 2
    WellFormed t ∧ t.text = text ∧ parse text = .ok t ∧ ¬WellFormed (.array t 1) := by
  intro text t
  have hlist : WellFormed (.generic (.declared "List") [.unknown]) :=
    .generic (wellFormed_declared_iff.2 (by decide +kernel)) rfl (by simp) (by simpa using .unknown)
  have hmap : WellFormed (.generic (.declared "Map")
      [.declared "K", .bounded false (.generic (.declared "List") [.unknown])]) :=
    .generic (wellFormed_declared_iff.2 (by decide +kernel)) rfl (by simp)
      (by simpa using ⟨wellFormed_declared_iff.2 (by decide +kernel), .bounded hlist⟩)
  have ht : WellFormed t := .array hmap (.inr rfl) (by decide)
  have htext : t.text = text := by decide +kernel
  obtain ⟨hback, himage, hparse, -⟩ := parse_text_round_trip
  refine ⟨ht, htext, ?_, fun h => ?_⟩
  · rw [← htext]
    exact hback t.text t (hparse t ht)
  · cases h with
    | array _ hkind _ => simp [t, isBare, isGeneric] at hkind

end Referent.TypeExpr
