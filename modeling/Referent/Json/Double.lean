/-!
# Numbers of double precision

Whether a decimal number is held as a finite number of double precision. The number that is held is
not always the nearest one: digits are taken from the front while they fit 64 bits, digits before
the point that no longer fit count as zeros, and those behind it are passed over. What the digits
write and the power of ten that scales it are then rounded each to 53 significant bits, and their
product to a number of double precision.

* `roundTo53` — rounding to 53 significant bits.
* `keepDigits` — the digits that fit 64 bits.
* `isFinite` — the number can be held.
-/

namespace Referent.Json.Double

/-- The natural number rounded to 53 significant bits, of two that are equally near to the one with
an even last bit. -/
def roundTo53 (n : Nat) : Nat :=
  let unit := Nat.pow 2 (n.log2 - 52)
  let below := n / unit
  let rest := 2 * (n % unit)
  if unit < rest ∨ rest = unit ∧ below % 2 = 1 then (below + 1) * unit else below * unit

/-- The least number that rounds to more than every finite number of double precision: the middle of
the greatest one and the power of two after it. -/
def halfway : Nat :=
  Nat.pow 2 1024 - Nat.pow 2 970

/-- The value of a decimal digit. -/
def digitValue (d : Char) : Nat :=
  d.toNat - '0'.toNat

/-- Digits taken behind those that write `start` while all of them fit 64 bits: what they write, and
how many are left. -/
def keepDigits (start : Nat) : List Char → Nat × Nat
  | [] => (start, 0)
  | d :: ds =>
    let next := start * 10 + digitValue d
    if next < UInt64.size then keepDigits next ds else (start, ds.length + 1)

/-- The product of `digits` and a power of ten is finite. A power of ten beyond double precision
makes any number but zero too great, and one below one never does. -/
def isFiniteProduct (digits : Nat) (scale : Int) : Bool :=
  digits == 0 || scale < 0 ||
    scale ≤ 308 && roundTo53 digits * roundTo53 (Nat.pow 10 scale.toNat) < halfway

/-- The number with these digits before and after the point, times ten to the exponent, can be
held. -/
def isFinite (whole fraction : List Char) (exponent : Int) : Bool :=
  let (digits, dropped) := keepDigits 0 whole
  let (digits, passed) := keepDigits digits fraction
  isFiniteProduct digits (exponent + dropped - (fraction.length - passed : Nat))

end Referent.Json.Double
