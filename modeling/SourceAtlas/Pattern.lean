import SourceAtlas.Text.Lines

/-!
Patterns over texts, matched with backtracking: of several ways to match, the first in the order of
the alternatives wins, a greedy repetition preferring more characters and a lazy one fewer. Only
single characters are repeated, so a match is found by structural recursion on the pattern.
-/
namespace SourceAtlas

/-- Where a match stands: the character before, the characters ahead, the number of characters
taken, and the groups closed so far (latest first), each as its number, the text ahead of it and its
length. -/
structure Cursor where
  before : Option Char
  rest : List Char
  taken : Nat := 0
  groups : List (Nat × List Char × Nat) := []

/-- What a match may begin with: anything, the end of the text included, or only characters of some
classes. -/
structure First where
  free : Bool
  classes : List (Char → Bool) := []

def First.admits (first : First) (c : Char) : Bool := first.free || first.classes.any (· c)

namespace Cursor

def next? (c : Cursor) : Option (Char × Cursor) :=
  match c.rest with
  | [] => none
  | x :: xs => some (x, { c with before := some x, rest := xs, taken := c.taken + 1 })

/-- The text of a group; empty when it took no part in the match. -/
def group (c : Cursor) (number : Nat) : String :=
  match c.groups.lookup number with
  | some (ahead, size) => .ofList (ahead.take size)
  | none => ""

def hasGroup (c : Cursor) (number : Nat) : Bool := (c.groups.lookup number).isSome

/-- The cursors that further characters of a class lead to, the farthest first; only those are kept
that `first` admits. -/
def spreadFrom (p : Char → Bool) (first : First) (groups : List (Nat × List Char × Nat))
    (seen : List Cursor) (before : Option Char) (taken : Nat) : List Char → List Cursor
  | [] => if first.free then ⟨before, [], taken, groups⟩ :: seen else seen
  | x :: xs =>
      let seen := if first.admits x then ⟨before, x :: xs, taken, groups⟩ :: seen else seen
      if p x then spreadFrom p first groups seen (some x) (taken + 1) xs else seen

def spread (p : Char → Bool) (first : First) (c : Cursor) : List Cursor :=
  spreadFrom p first c.groups [] c.before c.taken c.rest

/-- The first success of `k` over ever more characters of a class, tried only where `first`
admits. -/
def firstFrom (p : Char → Bool) (first : First) (groups : List (Nat × List Char × Nat))
    (k : Cursor → Option Cursor) (before : Option Char) (taken : Nat) : List Char → Option Cursor
  | [] => if first.free then k ⟨before, [], taken, groups⟩ else none
  | x :: xs =>
      match if first.admits x then k ⟨before, x :: xs, taken, groups⟩ else none with
      | some found => some found
      | none => if p x then firstFrom p first groups k (some x) (taken + 1) xs else none

def pastBlanks (before : Option Char) : List Char → Option Char × List Char
  | [] => (before, [])
  | x :: xs => if Text.isBlank x then pastBlanks (some x) xs else (before, x :: xs)

def atWordEdge (c : Cursor) : Bool :=
  (c.before.map Text.isWord).getD false != (c.rest.head?.map Text.isWord).getD false

def atLineStart (c : Cursor) : Bool := c.before == none || c.before == some '\n'

def atLineEnd (c : Cursor) : Bool := c.rest.head? == none || c.rest.head? == some '\n'

end Cursor

/-- A pattern of a text: `many` prefers more characters of a class and `fewest` fewer. -/
inductive Pattern
  | empty
  | one (p : Char → Bool)
  | many (p : Char → Bool)
  | fewest (p : Char → Bool)
  | seq (first second : Pattern)
  | either (first second : Pattern)
  | group (number : Nat) (inner : Pattern)
  | lineStart
  | lineEnd
  | wordEdge
  | notAhead (p : Char → Bool)

namespace Pattern

def literal (text : String) : Pattern :=
  text.toList.foldr (fun c rest => .seq (.one (· == c)) rest) .empty

instance : Append Pattern := ⟨.seq⟩

instance : Coe String Pattern := ⟨literal⟩

/-- The first of several patterns that leads to a match. -/
def anyOf : List Pattern → Pattern
  | [] => .one fun _ => false
  | [p] => p
  | p :: rest => .either p (anyOf rest)

def maybe (p : Pattern) : Pattern := .either p .empty

def plus (p : Char → Bool) : Pattern := .seq (.one p) (.many p)

def blanks : Pattern := .many Text.isBlank

def someBlanks : Pattern := plus Text.isBlank

def word : Pattern := plus Text.isWord

def first (rest : First) : Pattern → First
  | .one p => ⟨false, [p]⟩
  | .many p | .fewest p => { rest with classes := p :: rest.classes }
  | .seq a b => a.first (b.first rest)
  | .either a b =>
      let (x, y) := (a.first rest, b.first rest)
      ⟨x.free || y.free, x.classes ++ y.classes⟩
  | .group _ a => a.first rest
  | _ => rest

/-- Matches from a cursor and hands each way on to `k`, in order, until one succeeds. `next` is what
`k` may begin with. -/
def run : Pattern → Cursor → (Unit → First) → (Cursor → Option Cursor) → Option Cursor
  | .empty, c, _, k => k c
  | .one p, c, _, k =>
      match c.next? with
      | none => none
      | some (x, after) => if p x then k after else none
  | .many p, c, next, k => (c.spread p (next ())).findSome? k
  | .fewest p, c, next, k => Cursor.firstFrom p (next ()) c.groups k c.before c.taken c.rest
  | .seq a b, c, next, k => a.run c (fun _ => b.first (next ())) fun c' => b.run c' next k
  | .either a b, c, next, k =>
      match a.run c next k with
      | some found => some found
      | none => b.run c next k
  | .group n a, c, next, k =>
      a.run c next fun c' => k { c' with groups := (n, c.rest, c'.taken - c.taken) :: c'.groups }
  | .lineStart, c, _, k => if c.atLineStart then k c else none
  | .lineEnd, c, _, k => if c.atLineEnd then k c else none
  | .wordEdge, c, _, k => if c.atWordEdge then k c else none
  | .notAhead p, c, _, k => if (c.rest.head?.map p).getD false then none else k c

def matchAt? (p : Pattern) (before : Option Char) (rest : List Char) : Option Cursor :=
  p.run ⟨before, rest, 0, []⟩ (fun _ => ⟨true, []⟩) some

/-- The matches of at least one character from left to right, none overlapping an earlier one. The
number bounds the starts that are tried. -/
def allFrom (p : Pattern) : Nat → Option Char → List Char → List Cursor
  | 0, _, _ => []
  | _ + 1, _, [] => []
  | n + 1, before, x :: xs =>
      match p.matchAt? before (x :: xs) with
      | none => allFrom p n (some x) xs
      | some found =>
          if found.taken = 0 then allFrom p n (some x) xs
          else found :: allFrom p n found.before found.rest

def all (p : Pattern) (text : List Char) : List Cursor := p.allFrom text.length none text

/-- The matches of a pattern that starts with no blank at the starts of lines, blanks before it
aside. All starts of lines in one stretch of blanks lead to the same place, so it is tried once. The
number bounds the places. -/
def indentedFrom (p : Pattern) : Nat → Option Char → List Char → List Cursor
  | 0, _, _ => []
  | _ + 1, _, [] => []
  | n + 1, before, x :: xs =>
      if before == none || before == some '\n' then
        let (last, rest) := Cursor.pastBlanks before (x :: xs)
        match p.matchAt? last rest with
        | some found => found :: indentedFrom p n found.before found.rest
        | none =>
            if Text.isBlank x then indentedFrom p n last rest else indentedFrom p n (some x) xs
      else indentedFrom p n (some x) xs

def allIndented (p : Pattern) (text : List Char) : List Cursor :=
  p.indentedFrom text.length none text

def firstIn (p : Pattern) (before : Option Char) : List Char → Option Cursor
  | [] => none
  | x :: xs =>
      match p.matchAt? before (x :: xs) with
      | some found => some found
      | none => firstIn p (some x) xs

def find? (p : Pattern) (text : List Char) : Option Cursor := p.firstIn none text

end Pattern

end SourceAtlas
