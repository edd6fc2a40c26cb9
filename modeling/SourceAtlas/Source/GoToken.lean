import SourceAtlas.Parsing.Forest
import SourceAtlas.Source.GoGrammar
import SourceAtlas.Text.Lines
import SourceAtlas.Text.Utf8

/-!
Tokens of Go sources. A source is a list of characters in which ill-formed bytes leave gaps; gaps
are harmless inside comments and literals, where the null character is not.

What stands at a place can be read in several ways: a line end as a token or as layout, a word as a
keyword or as a name, and an operator in its full length or only its start. They are offered in this
order, and the grammar takes the first that it can use. Keywords are no names, except for the few
that stand for functions and values.
-/
namespace SourceAtlas.Source.Go

open Text Parsing

/-- A character of a source, or the gap that ill-formed bytes leave. -/
abbrev Mark := Option Char

def marks (content : Bytes) : List Mark :=
  (Utf8.fronts content).map fun front =>
    match front with
    | .char c _ => some c
    | _ => none

def marksText (source : List Mark) : String := .ofList (source.filterMap id)

def markIs (p : Char → Bool) (mark : Mark) : Bool := (mark.map p).getD false

/-- Letters of the sixteenth edition of the character database that the fourteenth has not. -/
def laterLetters : CodeSet := .ofPacked
  "7305 1 35649 2 13 2 24036 51 1879 27 10 22 317 2 891 1 320 9 2 0 3 0 2 37 2 0 26 0 2 0 2029 32 802
  0 2 12 2 33 5372 0 18 5 26 3994 7430 29 3107 44 8083 0 9267 0 35 0 11728 5 262 61 1123 27 229 29 3
  0 53577 0 13495 621 9459 4191"

def laterParts : CodeSet := .ofPacked
  "2199 0 1116 0 475 0 4414 1 4334 0 52842 0 3547 9 32 4 399 3 834 0 375 8 2 0 3 0 2 3 2 4 2 0 15 1
  750 19 1293 9 775 1 2 0 49 6 4 4 14 10 5350 0 7 14 11465 27 3127 9 24439 9 5014 0 1117 13 245 1 2
  9"

def startsName (c : Char) : Bool := isNameStart c || (c.toNat ≥ 128 && laterLetters.contains c)

def goesOnName (c : Char) : Bool :=
  isNamePart c || (c.toNat ≥ 128 && (laterLetters.contains c || laterParts.contains c))

def isLayout (c : Char) : Bool := c == ' ' || ('\t' ≤ c && c ≤ '\r')

def isHexDigit (c : Char) : Bool := c.isDigit || ('a' ≤ c && c ≤ 'f') || ('A' ≤ c && c ≤ 'F')

def isOctalDigit (c : Char) : Bool := '0' ≤ c && c ≤ '7'

/-- Digits after a first one, each after at most one underscore. -/
def moreDigits (p : Char → Bool) : List Mark → Nat
  | some '_' :: some d :: rest => if p d then moreDigits p rest + 2 else 0
  | some d :: rest => if p d then moreDigits p rest + 1 else 0
  | _ => 0

def digitRun (p : Char → Bool) : List Mark → Nat
  | some d :: rest => if p d then moreDigits p rest + 1 else 0
  | _ => 0

def looseDigits (p : Char → Bool) : List Mark → Nat
  | some '_' :: rest =>
      let n := digitRun p rest
      if n = 0 then 0 else n + 1
  | rest => digitRun p rest

/-- A part of a literal after `before` marks of it; none if the part is missing. -/
def extend (before : Nat) (part : Nat) : Nat := if part = 0 then 0 else before + part

def exponent (marks : List Char) (source : List Mark) : Nat :=
  match source with
  | some e :: rest =>
      if marks.contains e then
        match rest with
        | some '+' :: digits | some '-' :: digits => extend 2 (digitRun Char.isDigit digits)
        | digits => extend 1 (digitRun Char.isDigit digits)
      else 0
  | _ => 0

def longest (sizes : List Nat) : Nat := sizes.foldl max 0

def wholeNumber (source : List Mark) : Nat :=
  match source with
  | some '0' :: rest =>
      let based := match rest with
        | some b :: digits =>
            if b == 'x' || b == 'X' then extend 2 (looseDigits isHexDigit digits)
            else if b == 'b' || b == 'B' then
              extend 2 (looseDigits (fun c => c == '0' || c == '1') digits)
            else if b == 'o' || b == 'O' then extend 2 (looseDigits isOctalDigit digits)
            else 0
        | _ => 0
      longest [1, based, extend 1 (looseDigits isOctalDigit rest)]
  | _ => digitRun Char.isDigit source

def decimalFraction (source : List Mark) : Nat :=
  let whole := digitRun Char.isDigit source
  let rest := source.drop whole
  let scale := ['e', 'E']
  match rest with
  | some '.' :: tail =>
      let fraction := digitRun Char.isDigit tail
      if whole = 0 && fraction = 0 then 0
      else whole + 1 + fraction + exponent scale (tail.drop fraction)
  | _ => if whole = 0 then 0 else extend whole (exponent scale rest)

def hexFraction (source : List Mark) : Nat :=
  match source with
  | some '0' :: some x :: rest =>
      if x != 'x' && x != 'X' then 0
      else
        let whole := looseDigits isHexDigit rest
        let tail := rest.drop whole
        let mantissa := match tail with
          | some '.' :: more =>
              let fraction := digitRun isHexDigit more
              if whole = 0 && fraction = 0 then 0 else whole + 1 + fraction
          | _ => whole
        if mantissa = 0 then 0
        else extend (2 + mantissa) (exponent ['p', 'P'] (rest.drop mantissa))
  | _ => 0

def numberSize (source : List Mark) : Nat :=
  let sizes := [digitRun Char.isDigit source, wholeNumber source, decimalFraction source,
    hexFraction source]
  let imaginary := sizes.map fun n =>
    if n > 0 && (source.drop n).head? == some (some 'i') then n + 1 else 0
  longest (sizes.drop 1 ++ imaginary)

def isNull (c : Char) : Bool := c.toNat == 0

/-- The body of a string without escapes, up to and with a closing quote. -/
def plainBody (quote : Char) (taken : Nat) : List Mark → Nat
  | [] => 0
  | mark :: rest =>
      if mark == some quote then taken + 1
      else if markIs isNull mark then 0
      else plainBody quote (taken + 1) rest

def allHex (n : Nat) (source : List Mark) : Bool :=
  (source.take n).length = n && (source.take n).all (markIs isHexDigit)

def stringEscape (source : List Mark) : Nat :=
  match source with
  | [] => 0
  | some 'x' :: rest => if allHex 2 rest then 3 else 0
  | some 'u' :: rest => if allHex 4 rest then 5 else 0
  | some 'U' :: rest => if allHex 8 rest then 9 else 0
  | mark :: _ => if markIs isNull mark then 0 else 1

/-- The body of a string in double quotes and its closing quote; the first number bounds the
steps. -/
def stringBody : Nat → Nat → List Mark → Nat
  | 0, _, _ => 0
  | _, _, [] => 0
  | _, taken, some '"' :: _ => taken + 1
  | _, _, some '\n' :: _ => 0
  | n + 1, taken, some '\\' :: rest =>
      let size := stringEscape rest
      if size = 0 then 0 else stringBody n (taken + 1 + size) (rest.drop size)
  | n + 1, taken, mark :: rest =>
      if markIs isNull mark then 0 else stringBody n (taken + 1) rest

def runeEscape (source : List Mark) : Nat :=
  match source with
  | some 'x' :: rest => if allHex 2 rest then 3 else 0
  | some 'u' :: rest => if allHex 4 rest then 5 else 0
  | some 'U' :: rest => if allHex 8 rest then 9 else 0
  | some c :: _ =>
      if "abfnrtv\\'\"".toList.contains c then 1
      else if (source.take 3).length = 3 && (source.take 3).all (markIs isOctalDigit) then 3
      else 0
  | _ => 0

def runeSize (source : List Mark) : Nat :=
  let body := match source with
    | some '\\' :: rest => extend 1 (runeEscape rest)
    | some '\'' :: _ | [] => 0
    | mark :: _ => if markIs isNull mark then 0 else 1
  if body > 0 && (source.drop body).head? == some (some '\'') then body + 2 else 0

/-- The marks of a block comment from its opening on, zero if it never ends. -/
def blockComment (taken : Nat) : List Mark → Nat
  | some '*' :: some '/' :: _ => taken + 2
  | mark :: rest => if markIs isNull mark then 0 else blockComment (taken + 1) rest
  | [] => 0

/-- The operators, longer ones first. -/
def operators : List String :=
  ["<<=", ">>=", "&^=", "...", "+=", "-=", "*=", "/=", "%=", "&=", "|=", "^=", "<<", ">>", "&^",
    "&&", "||", "<-", "++", "--", "==", "!=", "<=", ">=", ":=", "+", "-", "*", "/", "%", "&", "|",
    "^", "<", ">", "=", "!", "(", ")", "[", "]", "\x7b", "\x7d", ",", ";", ".", ":", "~", "\x00"]

/-- The words that are never names. -/
def keywords : List String :=
  ["break", "case", "chan", "const", "continue", "default", "defer", "else", "fallthrough", "for",
    "func", "go", "goto", "if", "import", "interface", "map", "package", "range", "return",
    "select",
    "struct", "switch", "type", "var"]

def softKeywords : List String := ["new", "make", "nil", "true", "false", "iota", "_"]

def wordTokens (word : String) : List String :=
  if keywords.contains word then [word]
  else if softKeywords.contains word then [word, "name"]
  else ["name"]

def backQuote : Char := Char.ofNat 0x60

def sized (token : String) (size : Nat) : List (String × Nat) :=
  if size = 0 then [] else [(token, size)]

/-- The tokens at the front of a source that starts with no layout and no comment, with their sizes.
The number bounds the steps. -/
def tokensAt (bound : Nat) (source : List Mark) : List (String × Nat) :=
  match source with
  | [] => [(endToken, 0)]
  | some '"' :: rest => sized "string" (stringBody bound 1 rest)
  | some '\'' :: rest => sized "rune" (runeSize rest)
  | some c :: rest =>
      if c = backQuote then sized "string" (plainBody backQuote 1 rest)
      else if startsName c then
        let word := source.takeWhile (markIs goesOnName)
        (wordTokens (marksText word)).map fun token => (token, word.length)
      else
        sized "number" (numberSize source) ++
          (operators.filter fun op => (op.toList.map some).isPrefixOf source).map fun op =>
            (op, op.length)
  | none :: _ => []

/-- The size of a comment at the front, zero if there is none. A line comment stops before the line
end, or before a null character. -/
def commentSize (source : List Mark) : Nat :=
  match source with
  | some '/' :: some '/' :: rest =>
      2 + (rest.takeWhile fun mark => mark != some '\n' && !markIs isNull mark).length
  | some '/' :: some '*' :: rest => blockComment 2 rest
  | _ => 0

structure Remainder where
  place : Nat
  rest : List Mark

/-- What remains after layout and comments, and what remains after the first line end among them.
The number bounds the steps. -/
def pastLayout : Nat → Option Remainder → Remainder → Option Remainder × Remainder
  | 0, line, here => (line, here)
  | n + 1, line, here =>
      match here.rest with
      | [] => (line, here)
      | mark :: rest =>
          if markIs isLayout mark then
            let next : Remainder := ⟨here.place + 1, rest⟩
            pastLayout n (if mark == some '\n' then line.or (some next) else line) next
          else
            let size := commentSize here.rest
            if size = 0 then (line, here)
            else pastLayout n line ⟨here.place + size, here.rest.drop size⟩

def offers (bound place : Nat) (rest : List Mark) : List (Lexeme Mark) :=
  let (line, here) := pastLayout bound none ⟨place, rest⟩
  let lineEnd := line.toList.map fun next =>
    ⟨table.tokenId "\n", next.place - 1, next.place, next.rest⟩
  lineEnd ++ (tokensAt bound here.rest).map fun (token, size) =>
    ⟨table.tokenId token, here.place, here.place + size, here.rest.drop size⟩

end SourceAtlas.Source.Go
