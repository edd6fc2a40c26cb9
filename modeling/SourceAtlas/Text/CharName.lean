import SourceAtlas.Text.CodeSet
import SourceAtlas.Text.NameTable

/-!
Characters by name. Names of the table may be written in letters of either case; the names of
unified ideographs and of Hangul syllables are put together from a fixed front and a number or
parts, in capitals only.
-/
namespace SourceAtlas.Text.CharName

/-- The search for a name in the table. `length` is the length of the name read so far and `shared`
how much of its front is that of the wanted one. -/
structure Search where
  length : Nat := 0
  shared : Nat := 0
  code : Nat := 0
  numbered : Bool := false
  losing : Bool := true
  found : Option Nat := none

namespace Search

/-- Ends the name that was read. -/
def close (state : Search) (wanted : Array Char) : Search :=
  if state.found.isNone && state.length = wanted.size && state.shared = wanted.size then
    { state with found := some state.code }
  else state

/-- Reads one character of the table; the ends of its lines mean nothing. -/
def step (wanted : Array Char) (state : Search) (c : Char) : Search :=
  if 'a' ≤ c && c ≤ 'z' then
    let state := if state.losing then state else
      { state.close wanted with code := state.code + 1, numbered := false, losing := true }
    let length := state.length - (c.toNat - 97)
    { state with length := length, shared := min state.shared length }
  else if c == '\n' then state
  else if c == '@' then { state with numbered := true, code := 0, losing := false }
  else if state.numbered then { state with code := state.code * 10 + (c.toNat - 48) }
  else
    let shared := if state.shared = state.length && wanted[state.length]? = some c
      then state.shared + 1 else state.shared
    { state with length := state.length + 1, shared := shared, losing := false }

end Search

def inTable? (name : List Char) : Option Nat :=
  let wanted := (name.map Char.toUpper).toArray
  ((nameTable.foldl (Search.step wanted) {}).close wanted).found

def ideographs : List (Nat × Nat) :=
  [(0x3400, 0x4dbf), (0x4e00, 0x9fff), (0x20000, 0x2a6df), (0x2a700, 0x2b738),
    (0x2b740, 0x2b81d), (0x2b820, 0x2cea1), (0x2ceb0, 0x2ebe0), (0x30000, 0x3134a)]

def capitalHex? (digits : List Char) : Option Nat :=
  digits.foldlM (fun n c =>
    if c.isDigit then some (n * 16 + (c.toNat - 48))
    else if 'A' ≤ c && c ≤ 'F' then some (n * 16 + (c.toNat - 55))
    else none) 0

/-- The ideograph whose number is written in four or five digits. -/
def ideograph? (digits : List Char) : Option Nat :=
  if digits.length = 4 || digits.length = 5 then
    (capitalHex? digits).filter fun n => ideographs.any fun (first, last) => first ≤ n && n ≤ last
  else none

def firstParts : List String :=
  ["G", "GG", "N", "D", "DD", "R", "M", "B", "BB", "S", "SS", "", "J", "JJ", "C", "K", "T", "P",
    "H"]

def vowelParts : List String :=
  ["A", "AE", "YA", "YAE", "EO", "E", "YEO", "YE", "O", "WA", "WAE", "OE", "YO", "U", "WEO", "WE",
    "WI", "YU", "EU", "YI", "I"]

def lastParts : List String :=
  ["", "G", "GG", "GS", "N", "NJ", "NH", "D", "L", "LG", "LM", "LB", "LS", "LT", "LP", "LH", "M",
    "B",
    "BS", "S", "SS", "NG", "J", "C", "K", "T", "P", "H"]

/-- The number of the longest part at the front of a text, and the text after it. -/
def longestPart? (parts : List String) (text : List Char) : Option (Nat × List Char) :=
  let fitting := parts.zipIdx.filter fun (part, _) => part.toList.isPrefixOf text
  (fitting.foldl (fun best (part, index) =>
    match best with
    | some (length, _) => if part.length > length then some (part.length, index) else best
    | none => some (part.length, index)) (none : Option (Nat × Nat))).map
      fun (length, index) => (index, text.drop length)

def syllable? (text : List Char) : Option Nat := do
  let (first, text) ← longestPart? firstParts text
  let (vowel, text) ← longestPart? vowelParts text
  let (last, text) ← longestPart? lastParts text
  if text.isEmpty then some (0xac00 + (first * 21 + vowel) * 28 + last) else none

def ideographFront : List Char := "CJK UNIFIED IDEOGRAPH-".toList

def syllableFront : List Char := "HANGUL SYLLABLE ".toList

def find? (name : List Char) : Option Nat :=
  if syllableFront.isPrefixOf name then syllable? (name.drop syllableFront.length)
  else if ideographFront.isPrefixOf name then ideograph? (name.drop ideographFront.length)
  else inTable? name

end SourceAtlas.Text.CharName
