import SourceAtlas.Digest.Sha256

/-!
The keyed hash over the 256-bit secure hash, and the iterated key derivation built on it. Key and
pads are absorbed once; after that every application of the keyed hash to a 32-byte message costs
two blocks.
-/
namespace SourceAtlas.Digest

open Text (Bytes)
open Sha256

def keyBlock (key : Bytes) : Bytes :=
  let short := if key.length > 64 then sha256 key else key
  short ++ List.replicate (64 - short.length) 0

structure Keyed where
  inner : State
  outer : State

def Keyed.ofKey (key : Bytes) : Keyed :=
  let block := keyBlock key
  { inner := blocks initial (block.map (· ^^^ 0x36))
    outer := blocks initial (block.map (· ^^^ 0x5c)) }

/-- The 32 bytes held in a chaining value, hashed as the last block of a message of 96 bytes. -/
def absorb (start m : State) : State :=
  compress start m.a m.b m.c m.d m.e m.f m.g m.h 0x80000000 0 0 0 0 0 0 768

def Keyed.hash (k : Keyed) (message : Bytes) : State :=
  absorb k.outer (finish k.inner 64 message)

def State.xor (x y : State) : State :=
  ⟨x.a ^^^ y.a, x.b ^^^ y.b, x.c ^^^ y.c, x.d ^^^ y.d, x.e ^^^ y.e, x.f ^^^ y.f, x.g ^^^ y.g,
    x.h ^^^ y.h⟩

def chain (k : Keyed) : Nat → State → State → State
  | 0, _, sum => sum
  | n + 1, link, sum =>
      let next := absorb k.outer (absorb k.inner link)
      chain k n next (State.xor sum next)

/-- A 32-byte key from a passphrase: the first derived block after `iterations` links. -/
def stretch (passphrase salt : Bytes) (iterations : Nat) : Bytes :=
  let k := Keyed.ofKey passphrase
  let first := k.hash (salt ++ [0, 0, 0, 1])
  (chain k (iterations - 1) first first).bytes

end SourceAtlas.Digest
