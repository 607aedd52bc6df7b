/-
# The fewest digits that name a number

A finite binary number stands for the interval of reals that round to it.  The text of the
number is the decimal with the fewest digits in that interval, and of two such decimals the
one nearer to the number.

The search tries one digit, two digits, and so on; for each count it tests the two decimals
of that many digits next to the number.  All arithmetic is exact.
-/
import SipStills.Text.Digits

namespace SipStills.Decimal

/-- A finite binary number that is not negative: `mantissa * 2 ^ exponent`. -/
structure Binary where
  /-- The mantissa. -/
  mantissa : Nat
  /-- The exponent of two. -/
  exponent : Int
  /-- The next number below is half as far away as the next one above. -/
  closeBelow : Bool
deriving DecidableEq

/-- The magnitude that the bits of a finite number write. -/
def Binary.ofBits (bits : UInt64) : Binary :=
  let e : Nat := bits.toNat / Nat.pow 2 52 % Nat.pow 2 11
  let m : Nat := bits.toNat % Nat.pow 2 52
  if e = 0 then ⟨m, -1074, false⟩
  else ⟨Nat.pow 2 52 + m, (e : Int) - 1075, decide (m = 0) && decide (1 < e)⟩

/-- A decimal number: `digits * 10 ^ exponent`. -/
structure Numeral where
  /-- The digits, as a number. -/
  digits : Nat
  /-- The exponent of ten. -/
  exponent : Int
deriving DecidableEq

/-- The order of `a * 10 ^ i` and `n * 2 ^ j`. -/
def compareScaled (a : Nat) (i : Int) (n : Nat) (j : Int) : Ordering :=
  compare (a * Nat.pow 10 i.toNat * Nat.pow 2 (-j).toNat)
    (n * Nat.pow 2 j.toNat * Nat.pow 10 (-i).toNat)

/-- The decimal lies among the reals that round to the binary number.  The ends of that
interval belong to it if the mantissa is even. -/
def Binary.names (x : Binary) (d : Numeral) : Bool :=
  let low := if x.closeBelow then 4 * x.mantissa - 1 else 4 * x.mantissa - 2
  let high := 4 * x.mantissa + 2
  let closed := x.mantissa % 2 = 0
  let atLow := compareScaled d.digits d.exponent low (x.exponent - 2)
  let atHigh := compareScaled d.digits d.exponent high (x.exponent - 2)
  (atLow = .gt || (closed && atLow = .eq)) && (atHigh = .lt || (closed && atHigh = .eq))

/-- The quotient of the number by `10 ^ k`, rounded down. -/
def Binary.floorOver (x : Binary) (k : Int) : Nat :=
  x.mantissa * Nat.pow 2 x.exponent.toNat * Nat.pow 10 (-k).toNat
    / (Nat.pow 2 (-x.exponent).toNat * Nat.pow 10 k.toNat)

/-- The number of digits in front of the decimal point, or minus the number of zeros behind
it: the least `k`, counted from `start` up, for which the number is below `10 ^ k`. -/
def Binary.magnitude (x : Binary) : Nat → Int → Int
  | 0, k => k
  | fuel + 1, k => if x.floorOver k = 0 then k else x.magnitude fuel (k + 1)

/-- The decimal nearest to the number among those on the grid `10 ^ k` that name it; the
even one of two that are equally near. -/
def Binary.onGrid? (x : Binary) (k : Int) : Option Numeral :=
  let below : Numeral := ⟨x.floorOver k, k⟩
  let above : Numeral := ⟨x.floorOver k + 1, k⟩
  match x.names below, x.names above with
  | false, false => none
  | true, false => some below
  | false, true => some above
  | true, true =>
    match compareScaled (below.digits + above.digits) k (2 * x.mantissa) x.exponent with
    | .gt => some below
    | .lt => some above
    | .eq => some (if below.digits % 2 = 0 then below else above)

/-- The decimal of the fewest digits, at least `n` of them, that names the number. -/
def Binary.search (x : Binary) (magnitude : Int) : Nat → Nat → Numeral
  | 0, n => ⟨x.floorOver (magnitude - n), magnitude - n⟩
  | fuel + 1, n =>
    match x.onGrid? (magnitude - n) with
    | some d => d
    | none => x.search magnitude fuel (n + 1)

/-- The decimal of the fewest digits that names a number other than zero.  Seventeen digits
are enough for every number of fifty-three bits. -/
def Binary.shortest (x : Binary) : Numeral :=
  x.search (x.magnitude 640 (-330)) 17 1

/-- Moves trailing zeros of the digits into the exponent. -/
def Numeral.trim (d : Numeral) : Nat → Numeral
  | 0 => d
  | fuel + 1 =>
    if d.digits % 10 = 0 ∧ d.digits ≠ 0 then
      (⟨d.digits / 10, d.exponent + 1⟩ : Numeral).trim fuel
    else d

end SipStills.Decimal
