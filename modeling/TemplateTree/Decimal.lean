import TemplateTree.Text.Digit

/-!
Decimal fractions, the binary fractions nearest to them, and the shortest decimal text of a binary
fraction. A binary fraction has at most 53 significant bits, and its lowest bit is worth at least
`2 ^ (-1074)`. The shortest text has the fewest digits that lead back to the number; of those it is
the nearest to it.
-/
namespace TemplateTree

/-- The number `digits * 10 ^ exponent`. -/
structure Decimal where
  digits : Nat
  exponent : Int
deriving DecidableEq

/-- A binary fraction, an infinity, or what is not a number. The value of a finite one is
`mantissa * 2 ^ exponent`, with a sign. -/
inductive Binary where
  | finite (negative : Bool) (mantissa : Nat) (exponent : Int)
  | infinite (negative : Bool)
  | undefined
deriving DecidableEq

def twoTo (exponent : Int) : Nat := Nat.pow 2 exponent.toNat

def tenTo (exponent : Int) : Nat := Nat.pow 10 exponent.toNat

namespace Decimal

/-- The quotient rounded to the nearest number; a tie goes to the even one. -/
def roundedQuotient (numerator denominator : Nat) : Nat :=
  let quotient := numerator / denominator
  let twice := 2 * (numerator % denominator)
  if twice < denominator ∨ (twice = denominator ∧ quotient % 2 = 0) then quotient else quotient + 1

def lowestBit (numerator denominator : Nat) : Int :=
  let guess : Int := (numerator.log2 : Int) - denominator.log2 - 52
  let fits : Bool := denominator * twoTo 52 * twoTo guess ≤ numerator * twoTo (-guess)
  max (-1074) (if fits then guess else guess - 1)

def binaryOfQuotient (negative : Bool) (numerator denominator : Nat) : Binary :=
  let bit := lowestBit numerator denominator
  let mantissa := roundedQuotient (numerator * twoTo (-bit)) (denominator * twoTo bit)
  let carried := mantissa = twoTo 53
  let bit := if carried then bit + 1 else bit
  if 971 < bit then .infinite negative
  else .finite negative (if carried then twoTo 52 else mantissa) bit

def toBinary (negative : Bool) (decimal : Decimal) : Binary :=
  let size : Int := decimal.exponent + (Nat.toDigits 10 decimal.digits).length
  if decimal.digits = 0 ∨ size < -400 then .finite negative 0 0
  else if 400 < size then .infinite negative
  else
    binaryOfQuotient negative (decimal.digits * tenTo decimal.exponent) (tenTo (-decimal.exponent))

end Decimal

namespace Binary

structure Interval where
  low : Nat
  value : Nat
  high : Nat
  denominator : Nat
  closed : Bool

def interval (mantissa : Nat) (exponent : Int) : Interval :=
  let below := if mantissa = twoTo 52 ∧ -1074 < exponent then 1 else 2
  let up := twoTo exponent
  { low := (4 * mantissa - below) * up
    value := 4 * mantissa * up
    high := (4 * mantissa + 2) * up
    denominator := 4 * twoTo (-exponent)
    closed := mantissa % 2 = 0 }

def Interval.contains (interval : Interval) (decimal : Decimal) : Bool :=
  let up := tenTo decimal.exponent
  let down := tenTo (-decimal.exponent)
  let point := decimal.digits * up * interval.denominator
  if interval.closed then interval.low * down ≤ point ∧ point ≤ interval.high * down
  else interval.low * down < point ∧ point < interval.high * down

def decimalExponent (numerator denominator : Nat) : Int :=
  let guess : Int :=
    ((Nat.toDigits 10 numerator).length : Int) - (Nat.toDigits 10 denominator).length
  if denominator * tenTo guess ≤ numerator * tenTo (-guess) then guess else guess - 1

/-- The neighbour of the value on the grid of a power of ten that lies in its interval, if one
does; of two, the nearer, and of two that are equally near the even one. -/
def Interval.onGrid? (interval : Interval) (exponent : Int) : Option Decimal :=
  let numerator := interval.value * tenTo (-exponent)
  let denominator := interval.denominator * tenTo exponent
  let below := numerator / denominator
  let nearer := Decimal.roundedQuotient numerator denominator
  let farther := if nearer = below then below + 1 else below
  if interval.contains ⟨nearer, exponent⟩ then some ⟨nearer, exponent⟩
  else if interval.contains ⟨farther, exponent⟩ then some ⟨farther, exponent⟩
  else none

def shortest (mantissa : Nat) (exponent : Int) : Decimal :=
  let interval := interval mantissa exponent
  let top := decimalExponent interval.value interval.denominator
  ((List.range 17).findSome? fun (places : Nat) => interval.onGrid? (top - places)).getD
    ⟨interval.value * tenTo (16 - top) / (interval.denominator * tenTo (top - 16)), top - 16⟩

def positional (digits : Text) (whole : Int) : Text :=
  if whole ≤ 0 then '0' :: '.' :: (List.replicate (-whole).toNat '0' ++ digits)
  else
    let behind := digits.drop whole.toNat
    digits.take whole.toNat ++ List.replicate (whole.toNat - digits.length) '0' ++
      '.' :: (if behind = [] then ['0'] else behind)

def scientific (digits : Text) (power : Int) : Text :=
  let mantissa := match digits with
    | first :: rest => if rest = [] then [first] else first :: '.' :: rest
    | [] => []
  let places := Text.ofNat power.natAbs
  mantissa ++ 'e' :: (if power < 0 then '-' else '+') ::
    (List.replicate (2 - places.length) '0' ++ places)

def magnitude (mantissa : Nat) (exponent : Int) : Text :=
  if mantissa = 0 then ['0', '.', '0']
  else
    let decimal := shortest mantissa exponent
    let written := Text.ofNat decimal.digits
    let digits := (written.reverse.dropWhile (· = '0')).reverse
    let power : Int := decimal.exponent + written.length - 1
    if -4 ≤ power ∧ power < 16 then positional digits (power + 1) else scientific digits power

def toText : Binary → Text
  | finite negative mantissa exponent =>
      if negative then '-' :: magnitude mantissa exponent else magnitude mantissa exponent
  | infinite negative => if negative then ['-', 'i', 'n', 'f'] else ['i', 'n', 'f']
  | undefined => ['n', 'a', 'n']

def isZero : Binary → Bool
  | finite _ mantissa _ => mantissa = 0
  | _ => false

end Binary

end TemplateTree
