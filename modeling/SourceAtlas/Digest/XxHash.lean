import SourceAtlas.Text.Utf8

/-!
The 64-bit non-cryptographic content hash with seed zero: four accumulators over stripes of 32
bytes, then the tail by words of eight, four and one bytes, then the final mix.
-/
namespace SourceAtlas.Digest

open Text (Bytes)

namespace XxHash

def prime1 : UInt64 := 0x9e3779b185ebca87
def prime2 : UInt64 := 0xc2b2ae3d27d4eb4f
def prime3 : UInt64 := 0x165667b19e3779f9
def prime4 : UInt64 := 0x85ebca77c2b2ae63
def prime5 : UInt64 := 0x27d4eb2f165667c5

@[inline] def rotate (x n : UInt64) : UInt64 := (x <<< n) ||| (x >>> (64 - n))

/-- A little-endian word. -/
@[inline] def wordOf (a b c d e f g h : UInt8) : UInt64 :=
  a.toUInt64 ||| (b.toUInt64 <<< 8) ||| (c.toUInt64 <<< 16) ||| (d.toUInt64 <<< 24) |||
    (e.toUInt64 <<< 32) ||| (f.toUInt64 <<< 40) ||| (g.toUInt64 <<< 48) ||| (h.toUInt64 <<< 56)

@[inline] def mix (acc input : UInt64) : UInt64 := rotate (acc + input * prime2) 31 * prime1

@[inline] def merge (acc value : UInt64) : UInt64 := (acc ^^^ mix 0 value) * prime1 + prime4

/-- Adds up the stripes, and gives back the accumulators with the bytes that are left. -/
def stripes (v1 v2 v3 v4 : UInt64) : Bytes → UInt64 × UInt64 × UInt64 × UInt64 × Bytes
  | a0 :: a1 :: a2 :: a3 :: a4 :: a5 :: a6 :: a7 :: b0 :: b1 :: b2 :: b3 :: b4 :: b5 :: b6 :: b7 ::
      c0 :: c1 :: c2 :: c3 :: c4 :: c5 :: c6 :: c7 :: d0 :: d1 :: d2 :: d3 :: d4 :: d5 :: d6 ::
      d7 ::
      rest =>
      stripes (mix v1 (wordOf a0 a1 a2 a3 a4 a5 a6 a7)) (mix v2 (wordOf b0 b1 b2 b3 b4 b5 b6 b7))
        (mix v3 (wordOf c0 c1 c2 c3 c4 c5 c6 c7)) (mix v4 (wordOf d0 d1 d2 d3 d4 d5 d6 d7)) rest
  | rest => (v1, v2, v3, v4, rest)

/-- The bytes after the last whole word. -/
def tailBytes (acc : UInt64) : Bytes → UInt64
  | [] => acc
  | b :: rest => tailBytes (rotate (acc ^^^ (b.toUInt64 * prime5)) 11 * prime1) rest

/-- The words after the last stripe. -/
def tailWords (acc : UInt64) : Bytes → UInt64
  | a :: b :: c :: d :: e :: f :: g :: h :: rest =>
      tailWords (rotate (acc ^^^ mix 0 (wordOf a b c d e f g h)) 27 * prime1 + prime4) rest
  | a :: b :: c :: d :: rest =>
      tailBytes (rotate (acc ^^^ (wordOf a b c d 0 0 0 0 * prime1)) 23 * prime2 + prime3) rest
  | rest => tailBytes acc rest

def avalanche (acc : UInt64) : UInt64 :=
  let x := (acc ^^^ (acc >>> 33)) * prime2
  let y := (x ^^^ (x >>> 29)) * prime3
  y ^^^ (y >>> 32)

def hash (message : Bytes) : UInt64 :=
  let total := message.length
  let start : UInt64 × Bytes :=
    if total < 32 then (prime5, message)
    else
      let (v1, v2, v3, v4, rest) := stripes (prime1 + prime2) prime2 0 (0 - prime1) message
      let sum := rotate v1 1 + rotate v2 7 + rotate v3 12 + rotate v4 18
      (merge (merge (merge (merge sum v1) v2) v3) v4, rest)
  avalanche (tailWords (start.1 + total.toUInt64) start.2)

end XxHash

/-- The hash as eight bytes, most significant first. -/
def xxHash (message : Bytes) : Bytes :=
  let w := XxHash.hash message
  [(w >>> 56).toUInt8, (w >>> 48).toUInt8, (w >>> 40).toUInt8, (w >>> 32).toUInt8,
    (w >>> 24).toUInt8, (w >>> 16).toUInt8, (w >>> 8).toUInt8, w.toUInt8]

end SourceAtlas.Digest
