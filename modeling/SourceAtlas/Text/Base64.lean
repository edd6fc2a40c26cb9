import SourceAtlas.Text.Utf8

/-!
Bytes as base64 text, and the strict reading of such text. The reader takes the padding as it comes
after whole quadruples, but nothing after the padding that completes one; the causes of a refusal
are told apart.
-/
namespace SourceAtlas.Text.Base64

def digits : List Char := "ABCDEFGHIJKLMNOPQRSTUVWXYZabcdefghijklmnopqrstuvwxyz0123456789+/".toList

def digitOf (n : Nat) : Char := digits.getD n 'A'

/-- The value of a digit. -/
def valueOf? (c : Char) : Option Nat :=
  if 'A' ≤ c && c ≤ 'Z' then some (c.toNat - 65)
  else if 'a' ≤ c && c ≤ 'z' then some (c.toNat - 71)
  else if '0' ≤ c && c ≤ '9' then some (c.toNat + 4)
  else if c = '+' then some 62
  else if c = '/' then some 63
  else none

def encodeChars : Bytes → List Char
  | a :: b :: c :: rest =>
      let n := a.toNat * 65536 + b.toNat * 256 + c.toNat
      digitOf (n / 262144) :: digitOf (n / 4096 % 64) :: digitOf (n / 64 % 64) ::
        digitOf (n % 64) :: encodeChars rest
  | [a, b] =>
      let n := a.toNat * 1024 + b.toNat * 4
      [digitOf (n / 4096), digitOf (n / 64 % 64), digitOf (n % 64), '=']
  | [a] =>
      let n := a.toNat * 16
      [digitOf (n / 64), digitOf (n % 64), '=', '=']
  | [] => []

def encode (bytes : Bytes) : String := .ofList (encodeChars bytes)

/-- Why a text is no base64. -/
inductive Fault
  | notAscii
  | leadingPadding
  | excessData
  | foreignCharacter
  | discontinuousPadding
  | loneDigit (digits : Nat)
  | missingPadding

def Fault.message : Fault → String
  | .notAscii => "string argument should contain only ASCII characters"
  | .leadingPadding => "Leading padding not allowed"
  | .excessData => "Excess data after padding"
  | .foreignCharacter => "Only base64 data is allowed"
  | .discontinuousPadding => "Discontinuous padding not allowed"
  | .loneDigit n =>
      s!"Invalid base64-encoded string: number of data characters ({n}) cannot be 1 more than a multiple of 4"
  | .missingPadding => "Incorrect padding"

/-- A reader's state: the digits of the open quadruple (latest first), the padding after them, and
the bytes read (latest first). -/
structure Reader where
  quad : List Nat := []
  pads : Nat := 0
  padded : Bool := false
  bytes : Bytes := []

/-- The bytes of an open quadruple that are complete, latest first. -/
def openBytes : List Nat → Bytes
  | [b, a] => [(a * 4 + b / 16).toUInt8]
  | [c, b, a] => [(b % 16 * 16 + c / 4).toUInt8, (a * 4 + b / 16).toUInt8]
  | _ => []

def Reader.push (r : Reader) (value : Nat) : Reader :=
  match r.quad with
  | [c, b, a] =>
      { r with
        quad := []
        pads := 0
        bytes := (c % 4 * 64 + value).toUInt8 :: (b % 16 * 16 + c / 4).toUInt8 ::
          (a * 4 + b / 16).toUInt8 :: r.bytes }
  | quad => { r with quad := value :: quad, pads := 0 }

def Reader.finish (r : Reader) : Except Fault Bytes :=
  match r.quad with
  | [] => .ok r.bytes.reverse
  | [_] => .error (.loneDigit (r.bytes.length / 3 * 4 + 1))
  | _ => .error .missingPadding

def readFrom (r : Reader) : List Char → Except Fault Bytes
  | [] => r.finish
  | c :: rest =>
      if c = '=' then
        if r.quad.length ≥ 2 && r.quad.length + r.pads + 1 ≥ 4 then
          if rest.isEmpty then .ok (openBytes r.quad ++ r.bytes).reverse else .error .excessData
        else
          let pads := if r.quad.length ≥ 2 then r.pads + 1 else r.pads
          readFrom { r with pads := pads, padded := true } rest
      else match valueOf? c with
        | none => .error .foreignCharacter
        | some value =>
            if r.padded then .error .discontinuousPadding else readFrom (r.push value) rest

def decodeChars (text : List Char) : Except Fault Bytes :=
  if text.any (fun c => c.toNat ≥ 128) then .error .notAscii
  else if text.head? = some '=' then .error .leadingPadding
  else readFrom {} text

def decode (text : String) : Except Fault Bytes := decodeChars text.toList

/-- The lenient reading: foreign characters do not count, and padding that completes a quadruple
ends the text. -/
def readLenient (r : Reader) : List Char → Except Fault Bytes
  | [] => r.finish
  | c :: rest =>
      if c = '=' then
        if r.quad.length ≥ 2 && r.quad.length + r.pads + 1 ≥ 4 then
          .ok (openBytes r.quad ++ r.bytes).reverse
        else readLenient { r with pads := if r.quad.length ≥ 2 then r.pads + 1 else r.pads } rest
      else match valueOf? c with
        | none => readLenient r rest
        | some value => readLenient (r.push value) rest

def decodeLenient (text : String) : Except Fault Bytes :=
  if text.toList.any (fun c => c.toNat ≥ 128) then .error .notAscii
  else readLenient {} text.toList

end SourceAtlas.Text.Base64
