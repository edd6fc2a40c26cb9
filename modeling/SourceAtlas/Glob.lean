import SourceAtlas.Text.Lines

/-!
Shell patterns over whole texts: `*` for any text, `?` for any character, and character classes in
brackets, `!` negating. Nothing is special about slashes or leading dots. An opening bracket that is
never closed stands for itself.
-/
namespace SourceAtlas.Glob

/-- What a class holds: single characters are ranges of one. A class without a closed range in it
can match nothing, or, negated, everything. -/
structure CharClass where
  negated : Bool
  ranges : List (Char × Char)
  deriving BEq, DecidableEq, Repr

def CharClass.contains (cls : CharClass) (c : Char) : Bool :=
  (cls.ranges.any fun (low, high) => low ≤ c && c ≤ high) != cls.negated

inductive Part
  | any
  | one
  | exactly (c : Char)
  | inClass (cls : CharClass)
  deriving BEq, DecidableEq, Repr

/-- The inside of a class cut at the hyphens that can span a range: there is a character before such
a hyphen, and two hyphens that span ranges do not share an end. `piece` holds the characters since
the last cut, latest first, and `least` the number of them that must come before the next cut. -/
def cutAtHyphens (piece : List Char) (least : Nat) : List Char → List (List Char)
  | [] => [piece.reverse]
  | c :: rest =>
      if c = '-' && least ≤ piece.length then
        piece.reverse :: cutAtHyphens [] 2 rest
      else cutAtHyphens (c :: piece) least rest

def keepLastHyphen : List (List Char) → List (List Char)
  | [] => []
  | [piece, []] => [piece ++ ['-']]
  | piece :: rest => piece :: keepLastHyphen rest

def dropBackward : List (List Char) → List (List Char)
  | [] => []
  | piece :: rest =>
      match dropBackward rest with
      | [] => [piece]
      | next :: more =>
          match piece.getLast?, next.head? with
          | some low, some high =>
              if low > high then (piece.dropLast ++ next.drop 1) :: more else piece :: next :: more
          | _, _ => piece :: next :: more

def withMarks : List (List Char) → List (Option Char)
  | [] => []
  | [piece] => piece.map some
  | piece :: rest => piece.map some ++ none :: withMarks rest

def rangesOf : List (Option Char) → List (Char × Char)
  | some low :: none :: some high :: rest => (low, high) :: rangesOf rest
  | some c :: rest => (c, c) :: rangesOf rest
  | none :: rest => ('-', '-') :: rangesOf rest
  | [] => []

def classOf (inside : List Char) : CharClass :=
  let least := if inside.head? = some '!' then 2 else 1
  match withMarks (dropBackward (keepLastHyphen (cutAtHyphens [] least inside))) with
  | some '!' :: rest => ⟨true, rangesOf rest⟩
  | marked => ⟨false, rangesOf marked⟩

/-- The inside of a class after its opening bracket, and the rest after the closing one. A bracket
right at the start, or right after the negation, is part of the inside. -/
def classAt? (text : List Char) : Option (List Char × List Char) :=
  let lead := match text with
    | '!' :: ']' :: _ => 2
    | '!' :: _ => 1
    | ']' :: _ => 1
    | _ => 0
  let body := (text.drop lead).takeWhile (· ≠ ']')
  match text.drop (lead + body.length) with
  | _ :: rest => some (text.take lead ++ body, rest)
  | [] => none

def partsFrom : Nat → List Char → List Part
  | 0, _ => []
  | _, [] => []
  | n + 1, '*' :: rest => .any :: partsFrom n rest
  | n + 1, '?' :: rest => .one :: partsFrom n rest
  | n + 1, '[' :: rest =>
      match classAt? rest with
      | some (inside, after) => .inClass (classOf inside) :: partsFrom n after
      | none => .exactly '[' :: partsFrom n rest
  | n + 1, c :: rest => .exactly c :: partsFrom n rest

def parts (pattern : String) : List Part := partsFrom pattern.length pattern.toList

def tailsOf : List Char → List (List Char)
  | [] => [[]]
  | c :: rest => (c :: rest) :: tailsOf rest

/-- The texts that remain after a part, given those that are ahead: each is a tail of the text. -/
def Part.step (part : Part) (tails : List (List Char)) : List (List Char) :=
  let next := fun (p : Char → Bool) => tails.filterMap fun tail =>
    match tail with
    | c :: rest => if p c then some rest else none
    | [] => none
  match part with
  | .any =>
      match tails with
      | [] => []
      | longest :: _ => tailsOf longest
  | .one => next fun _ => true
  | .exactly c => next (· = c)
  | .inClass cls => next cls.contains

/-- Whether the parts match the whole of some tail. The tails come longest first. -/
def matchParts : List Part → List (List Char) → Bool
  | [], tails => tails.any List.isEmpty
  | part :: rest, tails => matchParts rest (part.step tails)

end SourceAtlas.Glob

namespace SourceAtlas

def globMatches (pattern text : String) : Bool :=
  Glob.matchParts (Glob.parts pattern) [text.toList]

end SourceAtlas
