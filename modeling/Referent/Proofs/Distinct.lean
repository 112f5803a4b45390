import Mathlib.Data.List.Nodup
import Mathlib.Logic.Function.Basic

/-!
# First occurrences by a key

Items that share a key count as one, and the first of them stands for all.

Results:
* `distinctBy_cons`: an item drops the later items of its key, and nothing else.
* `distinctBy_sublist`, `nodup_map_distinctBy`, `exists_mem_distinctBy`: what is left keeps its
  order, holds each key once, and holds every key of the list.
* `find?_distinctBy`, `find?_of_mem_distinctBy`: what is left of a key is its first item.
* `distinctBy_congr`: only which items share a key matters.
* `unseen_cons_of_mem`, `unseen_cons_of_not_mem`: a scan that notes the keys it has met leaves
  exactly these items.
* `distinctBy_append_of_subset`: items that were there before may be added behind a list.
-/

namespace Referent

variable {α κ : Type*} [DecidableEq κ]

/-- The items whose key no earlier item has. -/
def distinctBy (key : α → κ) (l : List α) : List α :=
  l.eraseDupsBy fun a b => key a == key b

/-- The items whose key is not among those seen and that no earlier item has. -/
def unseen (key : α → κ) (seen : List κ) (l : List α) : List α :=
  distinctBy key (l.filter (key · ∉ seen))

variable (key : α → κ)

@[simp] theorem distinctBy_nil : distinctBy key [] = [] := rfl

theorem distinctBy_cons_filter (a : α) (l : List α) :
    distinctBy key (a :: l) = a :: distinctBy key (l.filter (key · ≠ key a)) := by
  unfold distinctBy
  rw [List.eraseDupsBy_cons]
  congr 2
  refine List.filter_congr fun b _ => ?_
  by_cases h : key b = key a <;> simp [h]

/-- Items may be dropped by their key before or after repeated ones are. -/
theorem distinctBy_filter (p : κ → Bool) :
    ∀ l : List α, distinctBy key (l.filter (p <| key ·)) = (distinctBy key l).filter (p <| key ·)
  | [] => rfl
  | a :: l => by
    have ih := distinctBy_filter p (l.filter (key · ≠ key a))
    rw [distinctBy_cons_filter]
    cases ha : p (key a) with
    | true =>
      rw [List.filter_cons_of_pos (by simp [ha]), List.filter_cons_of_pos (by simp [ha]),
        distinctBy_cons_filter, ← ih, List.filter_filter, List.filter_filter]
      simp only [Bool.and_comm]
    | false =>
      rw [List.filter_cons_of_neg (by simp [ha]), List.filter_cons_of_neg (by simp [ha]), ← ih,
        List.filter_filter]
      congr 1
      refine List.filter_congr fun b _ => ?_
      by_cases hb : key b = key a <;> simp [hb, ha]
termination_by l => l.length
decreasing_by exact Nat.lt_succ_of_le (List.length_filter_le _ _)

theorem distinctBy_cons (a : α) (l : List α) :
    distinctBy key (a :: l) = a :: (distinctBy key l).filter (key · ≠ key a) := by
  rw [distinctBy_cons_filter, distinctBy_filter key (fun k => decide (k ≠ key a)) l]

theorem distinctBy_sublist (l : List α) : (distinctBy key l).Sublist l := by
  induction l with
  | nil => exact List.Sublist.refl _
  | cons a l ih =>
    rw [distinctBy_cons]
    exact (List.filter_sublist.trans ih).cons_cons a

/-- No two items that are left share a key. -/
theorem nodup_map_distinctBy (l : List α) : ((distinctBy key l).map key).Nodup := by
  induction l with
  | nil => exact List.nodup_nil
  | cons a l ih =>
    rw [distinctBy_cons, List.map_cons, List.nodup_cons]
    refine ⟨fun hmem => ?_, ih.sublist (List.filter_sublist.map key)⟩
    obtain ⟨b, hb, hkey⟩ := List.mem_map.1 hmem
    exact of_decide_eq_true (List.mem_filter.1 hb).2 hkey

/-- Each item is represented by one that is left. -/
theorem exists_mem_distinctBy {l : List α} {a : α} (h : a ∈ l) :
    ∃ b ∈ distinctBy key l, key b = key a := by
  induction l with
  | nil => cases h
  | cons c l ih =>
    rw [distinctBy_cons]
    by_cases hkey : key a = key c
    · exact ⟨c, List.mem_cons_self, hkey.symm⟩
    · rcases List.mem_cons.1 h with rfl | hmem
      · exact absurd rfl hkey
      · obtain ⟨b, hb, hba⟩ := ih hmem
        have hne : key b ≠ key c := by rwa [hba]
        exact ⟨b, List.mem_cons_of_mem _ (List.mem_filter.2 ⟨hb, decide_eq_true hne⟩), hba⟩

/-- Of each key the first item is left. -/
theorem find?_distinctBy (k : κ) (l : List α) :
    (distinctBy key l).find? (key · == k) = l.find? (key · == k) := by
  induction l with
  | nil => rfl
  | cons a l ih =>
    rw [distinctBy_cons, List.find?_cons, List.find?_cons, List.find?_filter, ← ih]
    by_cases hk : key a = k
    · simp [hk]
    · -- An item of another key than `k` drops none of key `k`.
      have hkept (b : α) : (key b ≠ key a ∧ key b = k) ↔ key b = k :=
        and_iff_right_of_imp fun hb => hb.trans_ne (Ne.symm hk)
      simp [hk, hkept, beq_eq_decide]

theorem find?_of_mem_distinctBy {l : List α} {a : α} (h : a ∈ distinctBy key l) :
    l.find? (key · == key a) = some a := by
  rw [← find?_distinctBy]
  cases hfind : (distinctBy key l).find? (key · == key a) with
  | none => simpa using List.find?_eq_none.1 hfind a h
  | some b =>
    have hb : key b = key a := by simpa using List.find?_some hfind
    rw [List.inj_on_of_nodup_map (nodup_map_distinctBy key l) (List.mem_of_find?_eq_some hfind) h hb]

/-- The first item found is the first one found by anything narrower that holds of it. -/
theorem find?_of_imp {p q : α → Bool} {l : List α} {a : α} (h : l.find? p = some a)
    (ha : q a = true) (himp : ∀ b, q b = true → p b = true) : l.find? q = some a := by
  rw [List.find?_eq_some_iff_append] at h ⊢
  obtain ⟨-, before, after, rfl, hbefore⟩ := h
  refine ⟨ha, before, after, rfl, fun b hb => ?_⟩
  have hnot := hbefore b hb
  rw [Bool.not_eq_true'] at hnot ⊢
  rw [← Bool.not_eq_true] at hnot ⊢
  exact mt (himp b) hnot

/-- Keys that are shared by the same items leave the same. -/
theorem distinctBy_congr {κ' : Type*} [DecidableEq κ'] {key' : α → κ'} {l : List α}
    (h : ∀ a ∈ l, ∀ b ∈ l, key a = key b ↔ key' a = key' b) :
    distinctBy key l = distinctBy key' l := by
  induction l with
  | nil => rfl
  | cons a l ih =>
    rw [distinctBy_cons, distinctBy_cons,
      ih fun b hb c hc => h b (List.mem_cons_of_mem a hb) c (List.mem_cons_of_mem a hc)]
    congr 1
    refine List.filter_congr fun b hb => ?_
    have hmem : b ∈ l := (distinctBy_sublist key' l).subset hb
    simp only [ne_eq, h b (List.mem_cons_of_mem a hmem) a List.mem_cons_self]

variable {key}

theorem mem_of_mem_distinctBy {l : List α} {a : α} (h : a ∈ distinctBy key l) : a ∈ l :=
  (distinctBy_sublist key l).subset h

@[simp] theorem isEmpty_distinctBy (l : List α) : (distinctBy key l).isEmpty = l.isEmpty := by
  cases l with
  | nil => rfl
  | cons a l => rw [distinctBy_cons, List.isEmpty_cons, List.isEmpty_cons]

/-! ## Scanning -/

theorem unseen_nil_left (l : List α) : unseen key [] l = distinctBy key l := by
  simp [unseen]

/-- It does not matter in which order keys were seen. -/
theorem unseen_congr {seen seen' : List κ} {l : List α} (h : ∀ k, k ∈ seen ↔ k ∈ seen') :
    unseen key seen l = unseen key seen' l := by
  unfold unseen
  simp only [h]

@[simp] theorem unseen_nil (seen : List κ) : unseen key seen [] = [] := rfl

theorem unseen_cons_of_mem {seen : List κ} {a : α} (l : List α) (h : key a ∈ seen) :
    unseen key seen (a :: l) = unseen key seen l := by
  unfold unseen
  rw [List.filter_cons_of_neg (by simpa using h)]

theorem unseen_cons_of_not_mem {seen : List κ} {a : α} (l : List α) (h : key a ∉ seen) :
    unseen key seen (a :: l) = a :: unseen key (key a :: seen) l := by
  unfold unseen
  rw [List.filter_cons_of_pos (by simpa using h), distinctBy_cons_filter, List.filter_filter]
  congr 2
  refine List.filter_congr fun b _ => ?_
  simp

theorem unseen_append (seen : List κ) (l m : List α) :
    unseen key seen (l ++ m) = unseen key seen l ++ unseen key (l.map key ++ seen) m := by
  induction l generalizing seen with
  | nil => rfl
  | cons a l ih =>
    by_cases h : key a ∈ seen
    · have hseen (k : κ) : k ∈ l.map key ++ seen ↔ k ∈ (a :: l).map key ++ seen := by
        simp only [List.map_cons, List.cons_append, List.mem_cons, List.mem_append]
        constructor
        · exact .inr
        · rintro (rfl | hk)
          · exact .inr h
          · exact hk
      rw [List.cons_append, unseen_cons_of_mem _ h, unseen_cons_of_mem _ h, ih, unseen_congr hseen]
    · have hseen (k : κ) : k ∈ l.map key ++ key a :: seen ↔ k ∈ (a :: l).map key ++ seen := by
        simp only [List.map_cons, List.cons_append, List.mem_cons, List.mem_append]
        exact or_left_comm
      rw [List.cons_append, unseen_cons_of_not_mem _ h, unseen_cons_of_not_mem _ h, ih,
        unseen_congr hseen, List.cons_append]

theorem unseen_eq_nil {seen : List κ} {l : List α} (h : ∀ a ∈ l, key a ∈ seen) :
    unseen key seen l = [] := by
  unfold unseen
  rw [List.filter_eq_nil_iff.2 fun a ha => by simpa using h a ha, distinctBy_nil]

theorem distinctBy_append_of_subset {l m : List α} (h : m ⊆ l) :
    distinctBy key (l ++ m) = distinctBy key l := by
  have hseen : ∀ a ∈ m, key a ∈ l.map key ++ [] := by
    intro a ha
    rw [List.append_nil]
    exact List.mem_map_of_mem (h ha)
  rw [← unseen_nil_left, unseen_append, unseen_eq_nil hseen, List.append_nil, unseen_nil_left]

end Referent
