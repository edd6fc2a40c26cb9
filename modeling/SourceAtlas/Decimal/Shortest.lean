import SourceAtlas.Decimal.Binary64

/-!
Decimal texts of doubles: the fewest digits that read back as the same double, of those the nearest
to it; and a fixed number of places, rounded to nearest with ties to even.
-/
namespace SourceAtlas.Decimal

/-- The decimal position of the first digit of a positive quotient: the greatest `k` with
`10 ^ k ≤ num / den`. -/
def leadingPlace (num den : Nat) : Int :=
  let reaches := fun (k : Int) =>
    if k ≥ 0 then decide (den * Nat.pow 10 k.toNat ≤ num)
    else decide (den ≤ num * Nat.pow 10 (-k).toNat)
  let guess : Int := (((num.log2 : Int) - (den.log2 : Int)) * 30103) / 100000
  ([guess + 2, guess + 1, guess, guess - 1].find? reaches).getD (guess - 2)

/-- The doubles' neighbourhood: all quotients between these bounds round to
`mantissa · 2 ^ exponent`. Both bounds and the value are given over one denominator. -/
structure Interval where
  low : Nat
  value : Nat
  high : Nat
  den : Nat
  closed : Bool

def Interval.around (m : Nat) (e : Int) : Interval :=
  let (n, d) := scaled 1 (e - 2)
  let below := if m = Nat.pow 2 52 && e > -1074 then 4 * m - 1 else 4 * m - 2
  { low := below * n, value := 4 * m * n, high := (4 * m + 2) * n, den := d, closed := m % 2 == 0 }

def Interval.holds (i : Interval) (num den : Nat) : Bool :=
  if i.closed then i.low * den ≤ num * i.den && num * i.den ≤ i.high * den
  else i.low * den < num * i.den && num * i.den < i.high * den

def decimalQuotient (digits : Nat) (place : Int) : Nat × Nat :=
  if place ≥ 0 then (digits * Nat.pow 10 place.toNat, 1) else (digits, Nat.pow 10 (-place).toNat)

/-- The nearer of the value's two neighbours on a decimal grid that lies in its interval. -/
def gridPoint? (i : Interval) (place : Int) : Option Nat :=
  let (n, d) : Nat × Nat :=
    if place ≥ 0 then (i.value, i.den * Nat.pow 10 place.toNat)
    else (i.value * Nat.pow 10 (-place).toNat, i.den)
  let below := n / d
  let inside := fun k =>
    let (a, b) := decimalQuotient k place
    i.holds a b
  let belowIn := below > 0 && inside below
  let aboveIn := inside (below + 1)
  if belowIn && aboveIn then
    some (if 2 * (n % d) > d || (2 * (n % d) == d && below % 2 == 1) then below + 1 else below)
  else if belowIn then some below
  else if aboveIn then some (below + 1)
  else none

/-- The shortest digits of a positive value and the place of the last of them; `count` digits are
tried first and `more` further lengths after it. -/
def shortestFrom (i : Interval) (first : Int) : Nat → Nat → Nat × Int
  | 0, count => (((gridPoint? i (first - count + 1)).getD 0), first - count + 1)
  | more + 1, count =>
      match gridPoint? i (first - count + 1) with
      | some digits => (digits, first - count + 1)
      | none => shortestFrom i first more (count + 1)

def trimZeros : Nat → Nat → Int → Nat × Int
  | 0, digits, place => (digits, place)
  | fuel + 1, digits, place =>
      if digits % 10 = 0 && digits > 0 then trimZeros fuel (digits / 10) (place + 1)
      else (digits, place)

def shortest (m : Nat) (e : Int) : Nat × Int :=
  let i := Interval.around m e
  let (digits, place) := shortestFrom i (leadingPlace i.value i.den) 17 1
  trimZeros 20 digits place

/-- How a double is written: up to which decimal exponents without an exponent mark, whether a whole
number keeps a zero after the point, and the texts of the values that have no digits. -/
structure Format where
  leastPositional : Int
  greatestPositional : Int
  wholeMark : String
  exponentMark : String
  exponentDigits : Nat
  infinite : String
  notANumber : String

def digitText (n : Nat) : List Char := Nat.toDigits 10 n

def zeros (n : Nat) : List Char := List.replicate n '0'

def Format.decimal (f : Format) (digits : Nat) (place : Int) : List Char :=
  let ds := digitText digits
  let lead : Int := place + ds.length - 1
  if digits = 0 then '0' :: f.wholeMark.toList
  else if f.leastPositional ≤ lead && lead ≤ f.greatestPositional then
    if place ≥ 0 then ds ++ zeros place.toNat ++ f.wholeMark.toList
    else if lead ≥ 0 then ds.take (lead.toNat + 1) ++ '.' :: ds.drop (lead.toNat + 1)
    else '0' :: '.' :: zeros (-lead - 1).toNat ++ ds
  else
    let head := match ds with
      | [] => []
      | [d] => [d]
      | d :: rest => d :: '.' :: rest
    let size := digitText lead.natAbs
    head ++ f.exponentMark.toList ++ (if lead < 0 then '-' else '+') ::
      zeros (f.exponentDigits - size.length) ++ size

def Format.magnitude (f : Format) : Magnitude → List Char
  | .infinite => f.infinite.toList
  | .finite m e =>
      if m = 0 then f.decimal 0 0
      else
        let (digits, place) := shortest m e
        f.decimal digits place

def Format.render (f : Format) : Binary64 → String
  | .notANumber => f.notANumber
  | .number negative size =>
      .ofList ((if negative then ['-'] else []) ++ f.magnitude size)

def twoPlaces : Binary64 → String
  | .notANumber => "nan"
  | .number negative size =>
      let body := match size with
        | .infinite => "inf".toList
        | .finite m e =>
            let (n, d) := scaled m e
            let hundredths := divNearest (n * 100) d
            let tail := digitText (hundredths % 100)
            digitText (hundredths / 100) ++ '.' :: zeros (2 - tail.length) ++ tail
      .ofList ((if negative then ['-'] else []) ++ body)

end SourceAtlas.Decimal
