import SourceAtlas.Text.Lines
import SourceAtlas.Text.Utf8

/-!
The path that the target of a request leads to. A host, a query and a fragment do not count, dots
walk up and down, and percent signs stand for bytes.
-/
namespace SourceAtlas.Service.Target

open Text Utf8

def withoutScheme (target : List Char) : List Char :=
  match cutAt? [':'] target with
  | some (c :: scheme, rest) =>
      if c.isAlpha && scheme.all (fun c => c.isAlphanum || ['+', '.', '-'].contains c) then rest
      else target
  | _ => target

def withoutHost : List Char → List Char
  | '/' :: '/' :: rest => rest.dropWhile fun c => c ≠ '/' && c ≠ '?' && c ≠ '#'
  | target => target

/-- The steps of a path with those of one dot left out, and a step up taken back with the one before
it. The steps are newest first in `seen`; there is no way up from the first. -/
def walk (seen : List (List Char)) : List (List Char) → List (List Char)
  | [] => seen.reverse
  | ['.'] :: rest => walk seen rest
  | ['.', '.'] :: rest => walk (if seen == [[]] then seen else seen.tail) rest
  | step :: rest => walk (step :: seen) rest

def withoutDots (path : List Char) : List Char :=
  ['/'].intercalate (walk [] (splitChars '/' path))

def hexValue? (c : Char) : Option Nat :=
  if c.isDigit then some (c.toNat - 48)
  else if 'a' ≤ c && c ≤ 'f' then some (c.toNat - 87)
  else if 'A' ≤ c && c ≤ 'F' then some (c.toNat - 55)
  else none

/-- Bytes with those that a percent sign and two digits stand for; other percent signs stay. The
bytes before are newest first in `seen`. -/
def decodeFrom (seen : Bytes) : List Char → Bytes
  | [] => seen.reverse
  | '%' :: a :: b :: rest =>
      match hexValue? a, hexValue? b with
      | some high, some low => decodeFrom ((16 * high + low).toUInt8 :: seen) rest
      | _, _ => decodeFrom (0x25 :: seen) (a :: b :: rest)
  | c :: rest => decodeFrom ((encodeChars [c]).reverse ++ seen) rest

def decode (text : String) : String := decodeReplacing (decodeFrom [] text.toList)

def path (target : String) : String :=
  let rest := withoutHost (withoutScheme target.toList)
  let raw := rest.takeWhile fun c => c ≠ '?' && c ≠ '#'
  decode (decode (.ofList (withoutDots ('/' :: raw.dropWhile (· == '/')))))

end SourceAtlas.Service.Target
