import SourceAtlas.Text.Quoted
import SourceAtlas.Text.Utf8

/-!
Texts from outside as bytes. Such a text may hold surrogates on their own, which have no bytes; the
first run of them is what an encoding fails with.
-/
namespace SourceAtlas.Text.Utf8

def isSurrogate (n : Nat) : Bool := 0xD800 ≤ n && n < 0xE000

/-- The first run of surrogates in a text. -/
structure EncodeFault where
  position : Nat
  size : Nat
  point : Nat
  deriving BEq, DecidableEq, Repr

def EncodeFault.message (fault : EncodeFault) : String :=
  let place :=
    if fault.size = 1 then
      "character '" ++ pointsText (escapePoint fault.point) ++ "' in position " ++
        toString fault.position
    else
      "characters in position " ++ toString fault.position ++ "-" ++
        toString (fault.position + fault.size - 1)
  "'utf-8' codec can't encode " ++ place ++ ": surrogates not allowed"

def encodePoints (text : Points) : Except EncodeFault Bytes :=
  match text.findIdx? isSurrogate with
  | none => .ok (encodeChars (text.map Char.ofNat))
  | some position =>
      let run := (text.drop position).takeWhile isSurrogate
      .error ⟨position, run.length, run.headD 0⟩

end SourceAtlas.Text.Utf8
