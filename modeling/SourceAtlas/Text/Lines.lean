import SourceAtlas.Text.Classes

/-!
Cutting texts: at line ends, at separators, and at white space. A text is a list of characters here;
the forms on `String` follow.
-/
namespace SourceAtlas.Text

/-- The characters that end a line: the ASCII line ends, vertical tab, form feed, the three upper
information separators, next line, and the line and paragraph separators. -/
def isLineEnd (c : Char) : Bool :=
  let n := c.toNat
  (10 ≤ n && n ≤ 13) || (28 ≤ n && n ≤ 30) || n == 0x85 || n == 0x2028 || n == 0x2029

/-- The lines of a text without their ends; `line` holds the characters of the current line, latest
first. A carriage return takes a following line feed with it, and an empty last line is none. -/
def linesFrom (line : List Char) : List Char → List (List Char)
  | [] => if line.isEmpty then [] else [line.reverse]
  | '\r' :: '\n' :: rest => line.reverse :: linesFrom [] rest
  | c :: rest =>
      if isLineEnd c then line.reverse :: linesFrom [] rest else linesFrom (c :: line) rest

def lines (text : String) : List String := (linesFrom [] text.toList).map .ofList

/-- Every line end as a line feed: a carriage return, with a line feed after it or not, is one.
`done` holds the characters so far, latest first. -/
def universalFrom (done : List Char) : List Char → List Char
  | [] => done.reverse
  | '\r' :: '\n' :: rest => universalFrom ('\n' :: done) rest
  | '\r' :: rest => universalFrom ('\n' :: done) rest
  | c :: rest => universalFrom (c :: done) rest

def universalLines (text : String) : String := .ofList (universalFrom [] text.toList)

/-- The pieces between the occurrences of one character; one more than there are occurrences. -/
def splitFrom (separator : Char) (piece : List Char) : List Char → List (List Char)
  | [] => [piece.reverse]
  | c :: rest =>
      if c = separator then piece.reverse :: splitFrom separator [] rest
      else splitFrom separator (c :: piece) rest

def splitChars (separator : Char) (text : List Char) : List (List Char) :=
  splitFrom separator [] text

def split (separator : Char) (text : String) : List String :=
  (splitChars separator text.toList).map .ofList

/-- The pieces between white space, none of them empty. -/
def wordsFrom (word : List Char) : List Char → List (List Char)
  | [] => if word.isEmpty then [] else [word.reverse]
  | c :: rest =>
      if isBlank c then
        if word.isEmpty then wordsFrom [] rest else word.reverse :: wordsFrom [] rest
      else wordsFrom (c :: word) rest

def words (text : String) : List String := (wordsFrom [] text.toList).map .ofList

def trimStart (p : Char → Bool) (text : List Char) : List Char := text.dropWhile p

def trimEnd (p : Char → Bool) (text : List Char) : List Char :=
  (text.reverse.dropWhile p).reverse

def trimChars (p : Char → Bool) (text : List Char) : List Char := trimEnd p (trimStart p text)

def strip (text : String) : String := .ofList (trimChars isBlank text.toList)

@[simp] theorem toList_strip (text : String) :
    (strip text).toList = trimChars isBlank text.toList :=
  String.toList_ofList

def dropFront? : List Char → List Char → Option (List Char)
  | [], text => some text
  | _ :: _, [] => none
  | p :: ps, c :: cs => if p = c then dropFront? ps cs else none

def startsWith (text front : String) : Bool := (dropFront? front.toList text.toList).isSome

def endsWith (text back : String) : Bool :=
  (dropFront? back.toList.reverse text.toList.reverse).isSome

def occurs (piece : List Char) : List Char → Bool
  | [] => piece.isEmpty
  | c :: rest => (dropFront? piece (c :: rest)).isSome || occurs piece rest

def includes (text piece : String) : Bool := occurs piece.toList text.toList

/-- The parts before and after the first occurrence of a piece. -/
def cutAt? (piece : List Char) : List Char → Option (List Char × List Char)
  | [] => if piece.isEmpty then some ([], []) else none
  | c :: rest =>
      match dropFront? piece (c :: rest) with
      | some after => some ([], after)
      | none => (cutAt? piece rest).map fun (before, after) => (c :: before, after)

/-- The part after the last occurrence of a character, or the whole text. -/
def afterLast (separator : Char) (text : String) : String :=
  .ofList (text.toList.reverse.takeWhile (· ≠ separator)).reverse

def distinct {α : Type} [BEq α] (items : List α) : List α :=
  (items.foldl (fun seen item => if seen.contains item then seen else item :: seen) []).reverse

/-- The order of a dictionary by code points: a text comes before those that it begins. -/
def precedesChars : List Char → List Char → Bool
  | [], _ => true
  | _ :: _, [] => false
  | a :: as, b :: bs => if a = b then precedesChars as bs else a.toNat < b.toNat

def precedes (a b : String) : Bool := precedesChars a.toList b.toList

def sortTexts (texts : List String) : List String := texts.mergeSort precedes

def join (separator : String) (pieces : List String) : String := separator.intercalate pieces

end SourceAtlas.Text
