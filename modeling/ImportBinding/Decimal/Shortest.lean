/-
This file finds the fewest decimal digits that identify a binary floating-point number, and
writes numbers with them.

A finite number `m * 2 ^ q` stands for the interval of reals that round to it: from halfway to
the neighbour below up to halfway to the neighbour above, the two ends included exactly when
`m` is even. The digits are looked for on the grids of one digit, two digits and so on. The
first grid with a point in the interval wins, and of two such points the one closer to the
number. All comparisons are exact.
-/

import ImportBinding.Text.Basic

namespace ImportBinding.Decimal

/-! ### Binary numbers and their intervals -/

/-- A finite number without its sign: `significand * 2 ^ exponent`. -/
structure Binary where
  significand : Nat
  exponent : Int
  /-- The gap to the neighbour below is half the gap to the neighbour above. -/
  narrowBelow : Bool

/-- The number that the bits of a finite double stand for, without its sign. -/
def Binary.ofBits (bits : UInt64) : Binary :=
  let biased : Nat := (bits.toNat >>> 52) % 0x800
  let fraction : Nat := bits.toNat % (1 <<< 52)
  if biased = 0 then ⟨fraction, -1074, false⟩
  else ⟨(1 <<< 52) + fraction, (biased : Int) - 1075, fraction = 0 && 1 < biased⟩

/-- A decimal: `digits * 10 ^ exponent`. -/
structure Scaled where
  digits : Nat
  exponent : Int

/-- The order of `digits * 10 ^ tens` and `number * 2 ^ twos`. -/
def compareScaled (digits : Nat) (tens : Int) (number : Nat) (twos : Int) : Ordering :=
  compare ((digits * Nat.pow 10 tens.toNat) <<< (-twos).toNat)
    ((number <<< twos.toNat) * Nat.pow 10 (-tens).toNat)

/-- Whether a decimal lies in the interval of a binary number. -/
def Binary.isNear (number : Binary) (decimal : Scaled) : Bool :=
  let lower := 4 * number.significand - if number.narrowBelow then 1 else 2
  let upper := 4 * number.significand + 2
  let closed := number.significand % 2 == 0
  let below := compareScaled decimal.digits decimal.exponent lower (number.exponent - 2)
  let above := compareScaled decimal.digits decimal.exponent upper (number.exponent - 2)
  (below == .gt || (closed && below == .eq)) && (above == .lt || (closed && above == .eq))

/-! ### The search -/

/-- The least exponent `k` such that a number other than zero is below `10 ^ k`. -/
def Binary.magnitude (number : Binary) : Int :=
  let twos : Int := (number.significand.log2 : Int) + number.exponent
  let estimate := (twos * 30103).fdiv 100000
  match (List.range 4).find? fun step : Nat =>
      compareScaled 1 (estimate + step) number.significand number.exponent == .gt with
  | some step => estimate + step
  | none => estimate

/-- The point of a decimal grid at or below a binary number. -/
def Binary.floorOn (number : Binary) (grid : Int) : Nat :=
  (number.significand <<< number.exponent.toNat) * Nat.pow 10 (-grid).toNat /
    (Nat.pow 10 grid.toNat <<< (-number.exponent).toNat)

/-- The point of a decimal grid that lies in the interval of a binary number, if there is one:
the closer of the two neighbours, and of two that are equally close the even one. -/
def Binary.on? (number : Binary) (grid : Int) : Option Scaled :=
  let lower : Scaled := ⟨number.floorOn grid, grid⟩
  let upper : Scaled := ⟨lower.digits + 1, grid⟩
  match number.isNear lower, number.isNear upper with
  | false, false => none
  | true, false => some lower
  | false, true => some upper
  | true, true =>
    match compareScaled (2 * lower.digits + 1) grid number.significand (number.exponent + 1) with
    | .gt => some lower
    | .lt => some upper
    | .eq => some (if lower.digits % 2 = 0 then lower else upper)

/-- The decimal of fewest digits in the interval of a binary number. Seventeen digits are always
enough. -/
def Binary.shortest (number : Binary) : Scaled :=
  let magnitude := number.magnitude
  match (List.range 17).findSome? fun count : Nat => number.on? (magnitude - (count + 1)) with
  | some decimal => decimal
  | none => ⟨number.floorOn (magnitude - 17), magnitude - 17⟩

/-! ### Layout -/

/-- The digits without the zeros at their end. -/
def trimZeros (digits : List Char) : List Char :=
  (digits.reverse.dropWhile (· = '0')).reverse

/-- The layout of digits whose first one counts powers of ten `exponent`: positional, with at
least one digit after the point, from `10 ^ -4` up to `10 ^ 16`, and beyond that with a signed
exponent of at least two digits. -/
def layout (digits : List Char) (exponent : Int) : List Char :=
  if -4 ≤ exponent ∧ exponent < 0 then
    ['0', '.'] ++ List.replicate ((-exponent).toNat - 1) '0' ++ digits
  else if 0 ≤ exponent ∧ exponent < 16 then
    let whole := exponent.toNat + 1
    let padded := digits ++ List.replicate (whole - digits.length) '0'
    let fraction := padded.drop whole
    padded.take whole ++ ['.'] ++ (if fraction.isEmpty then ['0'] else fraction)
  else
    let mantissa := match digits with
      | [] => []
      | [digit] => [digit]
      | digit :: more => digit :: '.' :: more
    let power := Nat.toDigits 10 exponent.natAbs
    mantissa ++ ['e', if exponent < 0 then '-' else '+'] ++
      List.replicate (2 - power.length) '0' ++ power

/-- The text of a double, given by its bits. -/
def ofBits (bits : UInt64) : Text :=
  let negative := 1 <<< 63 ≤ bits.toNat
  let biased : Nat := (bits.toNat >>> 52) % 0x800
  let fraction : Nat := bits.toNat % (1 <<< 52)
  if biased = 2047 ∧ fraction ≠ 0 then text "nan"
  else
    let size : List Char :=
      if biased = 2047 then ['i', 'n', 'f']
      else if biased = 0 ∧ fraction = 0 then ['0', '.', '0']
      else
        let number := Binary.ofBits bits
        let decimal := number.shortest
        let digits := Nat.toDigits 10 decimal.digits
        layout (trimZeros digits) (decimal.exponent + digits.length - 1)
    ((if negative then ['-'] else []) ++ size).map CodePoint.ofChar

end ImportBinding.Decimal
