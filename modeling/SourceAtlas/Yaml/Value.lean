import SourceAtlas.Yaml.Scalar

/-!
The values that YAML documents hold.
-/
namespace SourceAtlas.Yaml

open Text Decimal

/-- A value. Entries of a mapping stand in the order of their first occurrence. -/
inductive Value
  | null
  | bool (b : Bool)
  | int (n : Int)
  | float (x : Binary64)
  | text (s : String)
  | date (year month day : Nat)
  | moment (t : Timestamp)
  | bytes (b : Bytes)
  | list (items : List Value)
  | set (items : List Value)
  | pairs (items : List (Value × Value))
  | mapping (entries : List (Value × Value))

namespace Value

instance : Inhabited Value := ⟨.null⟩

/-- Empty collections, empty texts, zeros and `false` do not count as something. -/
def isSomething : Value → Bool
  | .null => false
  | .bool b => b
  | .int n => n ≠ 0
  | .float x => !x.isZero
  | .text s => !s.isEmpty
  | .date .. => true
  | .moment _ => true
  | .bytes b => !b.isEmpty
  | .list items => !items.isEmpty
  | .set items => !items.isEmpty
  | .pairs items => !items.isEmpty
  | .mapping entries => !entries.isEmpty

def number? : Value → Option Int
  | .bool b => some (if b then 1 else 0)
  | .int n => some n
  | .float x => x.whole?
  | _ => none

def sameDouble : Binary64 → Binary64 → Bool
  | .number s (.finite m e), .number t (.finite n f) =>
      let (a, b) := scaled m e
      let (c, d) := scaled n f
      a * d == c * b && (s == t || a == 0)
  | x, y => x == y

def sameKey (a b : Value) : Bool :=
  match a.number?, b.number? with
  | some m, some n => m == n
  | none, none =>
      match a, b with
      | .null, .null => true
      | .float x, .float y => sameDouble x y
      | .text s, .text t => s == t
      | .date y m d, .date y' m' d' => y == y' && m == m' && d == d'
      | .moment s, .moment t => s.agrees t
      | .bytes s, .bytes t => s == t
      | _, _ => false
  | _, _ => false

def insert (key value : Value) : List (Value × Value) → List (Value × Value)
  | [] => [(key, value)]
  | (k, v) :: rest =>
      if k.sameKey key then (k, value) :: rest else (k, v) :: insert key value rest

def get? (name : String) : List (Value × Value) → Option Value
  | [] => none
  | (k, v) :: rest => if k.sameKey (.text name) then some v else get? name rest

/-- How a double is written: with the fewest digits, a point always, and an exponent of two digits
from ten to the sixteenth on and below a ten thousandth. -/
def doubleFormat : Format := ⟨-4, 15, ".0", "e", 2, "inf", "nan"⟩

def scalarText : Value → Except NumeralFault String
  | .bool b => .ok (if b then "True" else "False")
  | .int n => writeInteger n
  | .float x => .ok (doubleFormat.render x)
  | .text s => .ok s
  | .date y m d => .ok (dateText y m d)
  | .moment t => .ok t.toText
  | .bytes b =>
      let points := b.map UInt8.toNat
      let quote := plainQuote points
      .ok (pointsText ((98 :: quote :: points.flatMap fun n =>
        if n = quote then [92, n]
        else if n = 92 || n < 32 || n ≥ 127 then escapePoint n
        else [n]) ++ [quote]))
  | _ => .ok "None"

end Value

end SourceAtlas.Yaml
