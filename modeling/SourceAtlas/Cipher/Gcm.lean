import SourceAtlas.Cipher.Block

/-!
Authenticated encryption in counter mode without associated data. The cipher text is the text under
a key stream; the tag is a polynomial hash of the cipher text under one more block of the stream.
-/
namespace SourceAtlas.Cipher

open Text (Bytes)

namespace Gcm

/-- An element of the hash's field: 128 bits, most significant first. -/
structure Element where
  high : UInt64
  low : UInt64

def Element.zero : Element := ⟨0, 0⟩

def Element.add (x y : Element) : Element := ⟨x.high ^^^ y.high, x.low ^^^ y.low⟩

/-- Multiplication by the field's generator: a shift to the right with reduction. -/
def Element.shift (x : Element) : Element :=
  let carry := x.low &&& 1
  let high := x.high >>> 1
  let low := (x.low >>> 1) ||| (x.high <<< 63)
  ⟨if carry == 1 then high ^^^ 0xe100000000000000 else high, low⟩

/-- The sum of the shifted copies of `v` at the set bits of one word, and `v` shifted past it. -/
def mulWord : Nat → UInt64 → Element → Element → Element × Element
  | 0, _, sum, v => (sum, v)
  | n + 1, bits, sum, v =>
      let sum' := if (bits >>> n.toUInt64) &&& 1 == 1 then sum.add v else sum
      mulWord n bits sum' v.shift

def Element.mul (x y : Element) : Element :=
  let (sum, v) := mulWord 64 x.high Element.zero y
  (mulWord 64 x.low sum v).1

def wordOf (bytes : Bytes) : UInt64 := bytes.foldl (fun acc b => (acc <<< 8) ||| b.toUInt64) 0

/-- The element of at most sixteen bytes, filled up with zeros. -/
def Element.ofBytes (bytes : Bytes) : Element :=
  let full := bytes ++ List.replicate (16 - bytes.length) 0
  ⟨wordOf (full.take 8), wordOf (full.drop 8)⟩

def wordBytes (w : UInt64) : Bytes :=
  [(w >>> 56).toUInt8, (w >>> 48).toUInt8, (w >>> 40).toUInt8, (w >>> 32).toUInt8,
    (w >>> 24).toUInt8, (w >>> 16).toUInt8, (w >>> 8).toUInt8, w.toUInt8]

def Element.bytes (x : Element) : Bytes := wordBytes x.high ++ wordBytes x.low

def hashFrom (h acc : Element) (text : Bytes) : Element :=
  match text with
  | [] => acc
  | b :: rest =>
      hashFrom h ((acc.add (Element.ofBytes (b :: rest.take 15))).mul h) (rest.drop 15)
termination_by text.length

def counterBytes (n : Nat) : Bytes :=
  let w := n.toUInt32
  [(w >>> 24).toUInt8, (w >>> 16).toUInt8, (w >>> 8).toUInt8, w.toUInt8]

def streamBlock (keys : List Bytes) (nonce : Bytes) (counter : Nat) : Bytes :=
  encryptBlock keys (nonce ++ counterBytes counter)

def streamFrom (keys : List Bytes) (nonce : Bytes) (counter : Nat) (text : Bytes) : Bytes :=
  match text with
  | [] => []
  | b :: rest =>
      xorBytes (b :: rest.take 15) (streamBlock keys nonce counter) ++
        streamFrom keys nonce (counter + 1) (rest.drop 15)
termination_by text.length

def tag (keys : List Bytes) (nonce cipherText : Bytes) : Bytes :=
  let h := Element.ofBytes (encryptBlock keys (List.replicate 16 0))
  let hashed := hashFrom h Element.zero cipherText
  let lengths : Element := ⟨0, (cipherText.length * 8).toUInt64⟩
  xorBytes ((hashed.add lengths).mul h).bytes (streamBlock keys nonce 1)

/-- The cipher text followed by its sixteen-byte tag. -/
def encrypt (key nonce text : Bytes) : Bytes :=
  let keys := roundKeys key
  let cipherText := streamFrom keys nonce 2 text
  cipherText ++ tag keys nonce cipherText

def decrypt? (key nonce message : Bytes) : Option Bytes :=
  let keys := roundKeys key
  let cipherText := message.take (message.length - 16)
  let given := message.drop (message.length - 16)
  if tag keys nonce cipherText = given then some (streamFrom keys nonce 2 cipherText) else none

end Gcm

end SourceAtlas.Cipher
