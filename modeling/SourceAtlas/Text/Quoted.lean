import SourceAtlas.Text.Classes

/-!
Quoted texts: between single quotes, or double ones where only single quotes occur inside, with all
that cannot be printed written as an escape. A text is a list of code points here, since it may hold
surrogates on their own.
-/
namespace SourceAtlas.Text

abbrev Points := List Nat

def points (text : String) : Points := text.toList.map Char.toNat

def pointsText (text : Points) : String := .ofList (text.map Char.ofNat)

def isPrintablePoint (n : Nat) : Bool :=
  !(0xD800 ≤ n && n < 0xE000) && isPrintable (Char.ofNat n)

def hexPadded (width n : Nat) : Points :=
  let digits := (Nat.toDigits 16 n).map Char.toNat
  List.replicate (width - digits.length) 48 ++ digits

/-- The escape of a code point: the three with letters, else two, four or eight digits. -/
def escapePoint (n : Nat) : Points :=
  if n = 92 then points "\\\\"
  else if n = 10 then points "\\n"
  else if n = 13 then points "\\r"
  else if n = 9 then points "\\t"
  else if n < 256 then points "\\x" ++ hexPadded 2 n
  else if n < 0x10000 then points "\\u" ++ hexPadded 4 n
  else points "\\U" ++ hexPadded 8 n

/-- The quote around a literal: the single one unless only that one occurs inside. -/
def plainQuote (text : Points) : Nat := if text.contains 39 && !text.contains 34 then 34 else 39

/-- The body of a literal between quotes of the given kind, all that is not printable escaped. -/
def escapedBody (quote : Nat) (text : Points) : Points :=
  text.flatMap fun n =>
    if n = quote then [92, n]
    else if n = 92 || !isPrintablePoint n then escapePoint n
    else [n]

def quoted (text : Points) : Points :=
  let quote := plainQuote text
  quote :: escapedBody quote text ++ [quote]

def quotedText (text : String) : String := pointsText (quoted (points text))

end SourceAtlas.Text
