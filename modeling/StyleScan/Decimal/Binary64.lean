/-!
# StyleScan.Decimal.Binary64

Double-precision numbers read from decimals and written with the fewest digits.

* `Binary64`           — sign, mantissa and binary exponent, an infinity, or not a number.
* `Binary64.ofDecimal` — the double nearest to a decimal; a tie goes to the even mantissa.
* `Binary64.shortest`  — the fewest digits that read back as a number, nearest to it of those.
* `Binary64.text`      — positional between 10⁻⁴ and 10¹⁶ with at least one decimal, else with an
  exponent.
-/

namespace StyleScan

/-- A double-precision number. A finite one is `mantissa * 2 ^ exponent`, with `mantissa < 2 ^ 53`
and `-1074 ≤ exponent ≤ 971`. -/
inductive Binary64 where
  | nan
  | infinite (negative : Bool)
  | finite (negative : Bool) (mantissa : Nat) (exponent : Int)
deriving DecidableEq, Repr, Inhabited

namespace Binary64

/-- The least exponent of a double. -/
def minExponent : Int := -1074

/-- The greatest exponent of a double. -/
def maxExponent : Int := 971

/-- What every mantissa is below: the 53rd power of two. -/
def mantissaLimit : Nat := 0x20000000000000

/-- A quotient rounded to the nearest whole number, a tie to the even one. -/
def roundDiv (num den : Nat) : Nat :=
  let quotient := num / den
  let twice := 2 * (num % den)
  if twice < den ∨ (twice = den ∧ quotient % 2 = 0) then quotient else quotient + 1

/-- The numerator of `base ^ e`. -/
def above (base : Nat) (e : Int) : Nat := Nat.pow base e.toNat

/-- The denominator of `base ^ e`. -/
def below (base : Nat) (e : Int) : Nat := Nat.pow base (-e).toNat

/-- The double nearest to `num / den`. -/
def ofRatio (negative : Bool) (num den : Nat) : Binary64 :=
  if num = 0 then finite negative 0 minExponent
  else
    let guess := max minExponent ((num.log2 : Int) - den.log2 - 53)
    let scaled (e : Int) := roundDiv (num * below 2 e) (den * above 2 e)
    let e := if scaled guess < mantissaLimit then guess else guess + 1
    let m := scaled e
    let (m, e) := if m = mantissaLimit then (mantissaLimit / 2, e + 1) else (m, e)
    if maxExponent < e then infinite negative else finite negative m e

/-- The number of decimal digits of a number. -/
def digitCount (n : Nat) : Nat := (Nat.toDigits 10 n).length

/-- The double nearest to `digits * 10 ^ exponent`. Exponents beyond the range of doubles are cut
off before the power is taken. -/
def ofDecimal (negative : Bool) (digits : Nat) (exponent : Int) : Binary64 :=
  let size := (digitCount digits : Int) + exponent
  if digits = 0 ∨ size < -400 then finite negative 0 minExponent
  else if 400 < size then infinite negative
  else ofRatio negative (digits * above 10 exponent) (below 10 exponent)

/-- Whether the grid point `c` of step `10 ^ scale` reads back as `mantissa * 2 ^ exponent`, where
all are multiplied by a common factor: `unit` is a quarter of the last place, `step` the step of
the grid. -/
def readsBack (mantissa : Nat) (exponent : Int) (unit step c : Nat) : Bool :=
  let isPower := mantissa = mantissaLimit / 2 ∧ minExponent < exponent
  let low := if isPower then 4 * mantissa - 1 else 4 * mantissa - 2
  let high := 4 * mantissa + 2
  if mantissa % 2 = 0 then low * unit ≤ c * step && c * step ≤ high * unit
  else low * unit < c * step && c * step < high * unit

/-- The digits of the grid point of step `10 ^ scale` nearest to a number, if it reads back. Halfway
between two points that both do, the upper one is taken. -/
def onGrid (mantissa : Nat) (exponent scale : Int) : Option Nat :=
  let unit := above 2 (exponent - 2) * below 10 scale
  let step := above 10 scale * below 2 (exponent - 2)
  let value := 4 * mantissa * unit
  let c := value / step
  let down := readsBack mantissa exponent unit step c
  let up := readsBack mantissa exponent unit step (c + 1)
  if down && (!up || 2 * (value % step) < step) then some c
  else if up then some (c + 1)
  else none

/-- Tries grids of one more digit each, from the step `10 ^ scale` on. -/
def search (mantissa : Nat) (exponent : Int) : Nat → Int → Nat × Int
  | 0, scale => ((onGrid mantissa exponent scale).getD 0, scale)
  | tries + 1, scale =>
    match onGrid mantissa exponent scale with
    | some digits => (digits, scale)
    | none => search mantissa exponent tries (scale - 1)

/-- The decimal exponent of the first digit of a number that is not zero. -/
def leading (mantissa : Nat) (exponent : Int) : Int :=
  let guess := ((mantissa.log2 : Int) + exponent) * 30103 / 100000
  let next := guess + 1
  if above 10 next * below 2 exponent ≤ mantissa * above 2 exponent * below 10 next then next
  else guess

/-- The fewest digits that read back, and the decimal exponent of the last of them. -/
def shortest (mantissa : Nat) (exponent : Int) : Nat × Int :=
  search mantissa exponent 17 (leading mantissa exponent)

/-- Digits with the decimal point behind the first `point` of them. -/
def positional (digits : List Char) (point : Int) : List Char :=
  if point ≤ 0 then '0' :: '.' :: (List.replicate (-point).toNat '0' ++ digits)
  else
    let whole := digits.take point.toNat
    let rest := digits.drop point.toNat
    whole ++ List.replicate (point.toNat - whole.length) '0' ++ '.' ::
      (if rest.isEmpty then ['0'] else rest)

/-- Digits with the decimal point behind the first and an exponent. -/
def scientific (digits : List Char) (exponent : Int) : List Char :=
  match digits with
  | [] => []
  | [d] => d :: 'e' :: (toString exponent).toList
  | d :: rest => d :: '.' :: (rest ++ 'e' :: (toString exponent).toList)

/-- A list of digits without the zeros behind it. -/
def dropZeros (digits : List Char) : List Char := (digits.reverse.dropWhile (· == '0')).reverse

/-- The text of the digits of a number. -/
def magnitude (mantissa : Nat) (exponent : Int) : List Char :=
  if mantissa = 0 then ['0', '.', '0']
  else
    let (digits, scale) := shortest mantissa exponent
    let all := Nat.toDigits 10 digits
    let first := (all.length : Int) + scale - 1
    if first < -4 ∨ 16 ≤ first then scientific (dropZeros all) first
    else positional (dropZeros all) (first + 1)

/-- The text of a number. -/
def text : Binary64 → String
  | nan => "NaN"
  | infinite negative => if negative then "-inf" else "inf"
  | finite negative m e => (if negative then "-" else "") ++ String.ofList (magnitude m e)

end Binary64
end StyleScan
