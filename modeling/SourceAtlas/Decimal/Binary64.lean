/-!
Double precision numbers as exact dyadic fractions: a sign, and a magnitude that is a natural number
times a power of two, or infinite. Every operation rounds an exact quotient to the nearest double, a
tie going to the even mantissa, so no machine arithmetic is needed.
-/
namespace SourceAtlas.Decimal

/-- A magnitude: `mantissa · 2 ^ exponent`, or too large for any double. -/
inductive Magnitude
  | finite (mantissa : Nat) (exponent : Int)
  | infinite
  deriving BEq, DecidableEq, Repr

/-- A double, not a number included. -/
inductive Binary64
  | number (negative : Bool) (size : Magnitude)
  | notANumber
  deriving BEq, DecidableEq, Repr

def scaled (n : Nat) (e : Int) : Nat × Nat :=
  if e ≥ 0 then (n * Nat.pow 2 e.toNat, 1) else (n, Nat.pow 2 (-e).toNat)

def divNearest (num den : Nat) : Nat :=
  let q := num / den
  let r := num % den
  if 2 * r > den || (2 * r == den && q % 2 == 1) then q + 1 else q

def scaledQuotient (num den : Nat) (e : Int) : Nat × Nat :=
  if e ≥ 0 then (num, den * Nat.pow 2 e.toNat) else (num * Nat.pow 2 (-e).toNat, den)

/-- The exponent at which a positive quotient has a mantissa of 53 bits, but no less than that of
the subnormal numbers. -/
def exponentOf (num den : Nat) : Int :=
  let guess : Int := (num.log2 : Int) - (den.log2 : Int) - 52
  let (n, d) := scaledQuotient num den guess
  max (-1074) (if n / d < Nat.pow 2 52 then guess - 1 else guess)

namespace Magnitude

def ofQuotient (num den : Nat) : Magnitude :=
  if num = 0 then .finite 0 (-1074)
  else
    let e := exponentOf num den
    let (n, d) := scaledQuotient num den e
    let m := divNearest n d
    let (m, e) := if m = Nat.pow 2 53 then (Nat.pow 2 52, e + 1) else (m, e)
    if e > 971 then .infinite else .finite m e

/-- The double nearest to `digits · 10 ^ exponent`. Beyond a thousand places the result is zero or
infinite whatever the digits are, so that the power stays small. -/
def ofDecimal (digits : Nat) (exponent : Int) : Magnitude :=
  if digits = 0 then .finite 0 (-1074)
  else
    let places : Int := ((Nat.toDigits 10 digits).length : Int) + exponent
    if places > 400 then .infinite
    else if places < -400 then .finite 0 (-1074)
    else if exponent ≥ 0 then ofQuotient (digits * Nat.pow 10 exponent.toNat) 1
    else ofQuotient digits (Nat.pow 10 (-exponent).toNat)

end Magnitude

namespace Binary64

def add : Binary64 → Binary64 → Binary64
  | .number s (.finite m e), .number t (.finite n f) =>
      let (a, b) := scaled m e
      let (c, d) := scaled n f
      let left : Int := (if s then -1 else 1) * (a * d : Nat)
      let right : Int := (if t then -1 else 1) * (c * b : Nat)
      let sum := left + right
      .number (if sum = 0 then s && t else sum < 0) (Magnitude.ofQuotient sum.natAbs (b * d))
  | .number s .infinite, .number t .infinite =>
      if s = t then .number s .infinite else .notANumber
  | .number s .infinite, .number _ _ => .number s .infinite
  | .number _ _, .number t .infinite => .number t .infinite
  | _, _ => .notANumber

def scale (k : Nat) : Binary64 → Binary64
  | .number s (.finite m e) =>
      let (a, b) := scaled m e
      .number s (Magnitude.ofQuotient (a * k) b)
  | x => x

def negate : Binary64 → Binary64
  | .number s size => .number (!s) size
  | .notANumber => .notANumber

def isZero : Binary64 → Bool
  | .number _ (.finite 0 _) => true
  | _ => false

def whole? : Binary64 → Option Int
  | .number s (.finite m e) =>
      let (a, b) := scaled m e
      if a % b = 0 then some (if s then -((a / b : Nat) : Int) else ((a / b : Nat) : Int)) else none
  | _ => none

end Binary64

end SourceAtlas.Decimal
