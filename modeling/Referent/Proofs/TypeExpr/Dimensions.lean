import Referent.TypeExpr.Basic
import Mathlib.Logic.Function.Iterate
import Mathlib.Tactic.SplitIfs

/-!
# Counting dimensions

The dimensions of an array are counted in a machine word. Below the greatest number one more
dimension is one more; behind it the count starts again at zero, and the array has none.

* `TypeExpr.room`: how many more dimensions can be counted.

Results:
* `Dimensions.toNat_add_one`, `Dimensions.greatest_add_one`: one more dimension, below the greatest
  number and at it.
* `TypeExpr.isFull_iff`, `TypeExpr.room_arrayOf`: an array uses up what can still be counted.
* `TypeExpr.iterate_arrayOf`: an array of arrays, as deep as can be counted, is one array.
-/

namespace Referent

namespace Dimensions

variable {d : Dimensions} {k : ℕ}

theorem toNat_greatest : (greatest : ℕ) = 18446744073709551615 := rfl

theorem le_greatest (d : Dimensions) : (d : ℕ) ≤ greatest := by
  have hlt := d.toNat_lt
  rw [toNat_greatest]
  omega

theorem lt_greatest (hd : d ≠ greatest) : (d : ℕ) < greatest :=
  Nat.lt_of_le_of_ne d.le_greatest fun h => hd (UInt64.toNat_inj.1 h)

theorem toNat_add_one (hd : d ≠ greatest) : ((d + 1 : Dimensions) : ℕ) = d + 1 := by
  have hlt := lt_greatest hd
  rw [toNat_greatest] at hlt
  rw [UInt64.toNat_add]
  exact Nat.mod_eq_of_lt (by simpa using by omega)

theorem one_le_iff : 1 ≤ d ↔ d ≠ 0 := by
  rw [UInt64.le_iff_toNat_le, ne_eq, ← UInt64.toNat_inj]
  exact Nat.one_le_iff_ne_zero

theorem add_one_inj {d' : Dimensions} : d + 1 = d' + 1 ↔ d = d' :=
  UInt64.add_left_inj 1

theorem add_one_ne_one (hd : d ≠ 0) : d + 1 ≠ 1 := by
  intro h
  have heq : d + 1 = 0 + 1 := by rw [h, UInt64.zero_add]
  exact hd (add_one_inj.1 heq)

theorem add_one_ne_self : d + 1 ≠ d := by
  intro h
  have heq : 1 + d = 0 + d := by rw [UInt64.add_comm, h, UInt64.zero_add]
  exact absurd ((UInt64.add_left_inj d).1 heq) (by decide)

theorem one_lt_add_one (hzero : d ≠ 0) (hd : d ≠ greatest) : 1 < d + 1 := by
  have hone := UInt64.le_iff_toNat_le.1 (one_le_iff.2 hzero)
  rw [UInt64.lt_iff_toNat_lt, toNat_add_one hd]
  exact Nat.lt_succ_of_le hone

theorem one_le_sub_one (hd : 1 < d) : 1 ≤ d - 1 := by
  rw [one_le_iff]
  intro h
  have heq : d = 1 := by rw [← UInt64.sub_add_cancel d 1, h, UInt64.zero_add]
  exact UInt64.lt_irrefl 1 (heq ▸ hd)

theorem toNat_natCast (hk : k ≤ greatest) : ((k : Dimensions) : ℕ) = k :=
  UInt64.toNat_ofNat_of_lt (Nat.lt_of_le_of_lt hk (by decide))

theorem natCast_toNat (d : Dimensions) : ((d : ℕ) : Dimensions) = d :=
  UInt64.ofNat_toNat

theorem natCast_succ (k : ℕ) : ((k + 1 : ℕ) : Dimensions) = k + 1 :=
  UInt64.ofNat_add k 1

theorem natCast_succ_ne (hk : k + 1 ≤ greatest) : ((k + 1 : ℕ) : Dimensions) ≠ 0 := by
  intro h
  have hzero : ((k + 1 : ℕ) : Dimensions).toNat = 0 := by
    rw [h]
    rfl
  rw [toNat_natCast hk] at hzero
  omega

end Dimensions

namespace TypeExpr

variable {t : TypeExpr} {k : ℕ}

/-- How many more dimensions can be counted. -/
def room : TypeExpr → ℕ
  | .array _ dimensions => (Dimensions.greatest : ℕ) - dimensions
  | _ => Dimensions.greatest

theorem isFull_iff : t.isFull = true ↔ t.room = 0 := by
  cases t with
  | array element dimensions =>
    have hle := dimensions.le_greatest
    rw [isFull, beq_iff_eq, room, ← UInt64.toNat_inj]
    omega
  | _ => simp [isFull, room, Dimensions.toNat_greatest]

theorem room_of_not_array (ht : ∀ element dimensions, t ≠ .array element dimensions) :
    t.room = Dimensions.greatest := by
  cases t with
  | array element dimensions => exact absurd rfl (ht element dimensions)
  | _ => rfl

/-- One more dimension takes away one of those that can still be counted. -/
theorem room_arrayOf (ht : t.isFull = false) : t.arrayOf.room + 1 = t.room := by
  cases t with
  | array element dimensions =>
    have hne : dimensions ≠ .greatest := by simpa [isFull] using ht
    have hlt := Dimensions.lt_greatest hne
    rw [arrayOf, room, room, Dimensions.toNat_add_one hne]
    omega
  | _ => rfl

/-- The array of the type with this number of dimensions; without any, the type itself. -/
def withDimensions (t : TypeExpr) (k : Dimensions) : TypeExpr :=
  if k = 0 then t else .array t k

theorem withDimensions_zero (t : TypeExpr) : t.withDimensions 0 = t :=
  if_pos rfl

theorem withDimensions_of_ne {k : Dimensions} (hk : k ≠ 0) (t : TypeExpr) :
    t.withDimensions k = .array t k :=
  if_neg hk

/-- All dimensions go into one array, unless the type was an array before. -/
theorem iterate_arrayOf (ht : ∀ element dimensions, t ≠ .array element dimensions)
    (hk : k ≤ Dimensions.greatest) : arrayOf^[k] t = t.withDimensions k := by
  induction k with
  | zero => exact t.withDimensions_zero.symm
  | succ k ih =>
    rw [Function.iterate_succ_apply', ih (Nat.le_of_succ_le hk),
      withDimensions_of_ne (Dimensions.natCast_succ_ne hk), Dimensions.natCast_succ]
    cases k with
    | zero =>
      cases t with
      | array element dimensions => exact absurd rfl (ht element dimensions)
      | _ => rfl
    | succ k =>
      rw [withDimensions_of_ne (Dimensions.natCast_succ_ne (Nat.le_of_succ_le hk)), arrayOf]

end TypeExpr

end Referent
