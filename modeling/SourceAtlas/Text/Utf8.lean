/-!
Texts as bytes. Encoding is character by character. Decoding reads one front after the other: a
character, or a maximal ill-formed part, which a strict reading reports with its position and a
lenient reading replaces or leaves out.
-/
namespace SourceAtlas.Text

abbrev Bytes := List UInt8

namespace Utf8

def encodeChars (text : List Char) : Bytes := text.flatMap String.utf8EncodeChar

def encode (text : String) : Bytes := encodeChars text.toList

/-- What stands at the front of a byte list: a character, or an ill-formed part; each with the
number of bytes it takes less one. -/
inductive Front
  | char (c : Char) (more : Nat)
  | badStart
  | badContinuation (more : Nat)
  | cutOff (more : Nat)

namespace Front

def reason : Front → String
  | .badStart => "invalid start byte"
  | .badContinuation _ => "invalid continuation byte"
  | .cutOff _ => "unexpected end of data"
  | .char .. => ""

def size : Front → Nat
  | .char _ n => n + 1
  | .badStart => 1
  | .badContinuation n => n + 1
  | .cutOff n => n + 1

end Front

def isContinuation (b : UInt8) : Bool := 0x80 ≤ b && b ≤ 0xbf

/-- Whether a second byte may follow a lead byte: overlong forms, surrogates and values past the
last code point are kept out. -/
def mayFollow (lead b : UInt8) : Bool :=
  if lead == 0xe0 then 0xa0 ≤ b && b ≤ 0xbf
  else if lead == 0xed then 0x80 ≤ b && b ≤ 0x9f
  else if lead == 0xf0 then 0x90 ≤ b && b ≤ 0xbf
  else if lead == 0xf4 then 0x80 ≤ b && b ≤ 0x8f
  else isContinuation b

def low (b : UInt8) : Nat := b.toNat % 64

/-- A character of two bytes after its lead byte. -/
def frontTwo (lead : UInt8) : Bytes → Front
  | [] => .cutOff 0
  | b :: _ =>
      if isContinuation b then .char (Char.ofNat (lead.toNat % 32 * 64 + low b)) 1
      else .badContinuation 0

def frontThree (lead : UInt8) : Bytes → Front
  | [] => .cutOff 0
  | b :: rest =>
      if !mayFollow lead b then .badContinuation 0
      else match rest with
        | [] => .cutOff 1
        | c :: _ =>
            if isContinuation c then
              .char (Char.ofNat (lead.toNat % 16 * 4096 + low b * 64 + low c)) 2
            else .badContinuation 1

def frontFour (lead : UInt8) : Bytes → Front
  | [] => .cutOff 0
  | b :: rest =>
      if !mayFollow lead b then .badContinuation 0
      else match rest with
        | [] => .cutOff 1
        | c :: rest =>
            if !isContinuation c then .badContinuation 1
            else match rest with
              | [] => .cutOff 2
              | d :: _ =>
                  if isContinuation d then
                    .char (Char.ofNat
                      (lead.toNat % 8 * 262144 + low b * 4096 + low c * 64 + low d)) 3
                  else .badContinuation 2

def front (lead : UInt8) (rest : Bytes) : Front :=
  if lead < 0x80 then .char (Char.ofNat lead.toNat) 0
  else if lead < 0xc2 then .badStart
  else if lead < 0xe0 then frontTwo lead rest
  else if lead < 0xf0 then frontThree lead rest
  else if lead < 0xf5 then frontFour lead rest
  else .badStart

/-- The fronts of a byte list in order, latest first. -/
def frontsFrom (seen : List Front) : Bytes → List Front
  | [] => seen
  | lead :: rest =>
      let f := front lead rest
      frontsFrom (f :: seen) (rest.drop (f.size - 1))
termination_by bytes => bytes.length

def fronts (bytes : Bytes) : List Front := (frontsFrom [] bytes).reverse

/-- Why bytes are not UTF-8: the first ill-formed part. -/
structure Fault where
  position : Nat
  size : Nat
  byte : UInt8
  reason : String

def Fault.message (fault : Fault) : String :=
  let digit := fun (n : Nat) => (Nat.toDigits 16 n)
  let hex := String.ofList (digit (fault.byte.toNat / 16) ++ digit (fault.byte.toNat % 16))
  if fault.size = 1 then
    s!"'utf-8' codec can't decode byte 0x{hex} in position {fault.position}: {fault.reason}"
  else
    let last := fault.position + fault.size - 1
    s!"'utf-8' codec can't decode bytes in position {fault.position}-{last}: {fault.reason}"

/-- The characters before the first ill-formed front (latest first), and that front with its
position. -/
def readStrict (position : Nat) (seen : List Char) : List Front → List Char × Option (Nat × Front)
  | [] => (seen, none)
  | .char c more :: rest => readStrict (position + more + 1) (c :: seen) rest
  | bad :: _ => (seen, some (position, bad))

def decode (bytes : Bytes) : Except Fault String :=
  match readStrict 0 [] (fronts bytes) with
  | (seen, none) => .ok (.ofList seen.reverse)
  | (_, some (position, bad)) =>
      .error { position, size := bad.size, byte := bytes.getD position 0, reason := bad.reason }

/-- A character, or the marks that stand for an ill-formed part. -/
def Front.lenient (mark : List Char) : Front → List Char
  | .char c _ => [c]
  | _ => mark

def decodeWith (mark : List Char) (bytes : Bytes) : String :=
  .ofList ((fronts bytes).flatMap (Front.lenient mark))

def decodeReplacing (bytes : Bytes) : String := decodeWith [Char.ofNat 0xfffd] bytes

end Utf8

end SourceAtlas.Text
