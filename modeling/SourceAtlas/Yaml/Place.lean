import SourceAtlas.Text.Lines

/-!
A place in a YAML text: what lies ahead, and the line and column it stands at. Every walk over a
text is made of single steps, so that lines and columns are counted in one definition.
-/
namespace SourceAtlas.Yaml

/-- The characters that end a line of a YAML text. -/
def isBreak (c : Char) : Bool :=
  c == '\n' || c == '\r' || c.toNat == 0x85 || c.toNat == 0x2028 || c.toNat == 0x2029

def isGap : Option Char → Bool
  | none => true
  | some c => c == ' ' || c == '\t' || isBreak c

def isSpaceGap : Option Char → Bool
  | none => true
  | some c => c == ' ' || isBreak c

def isLineGap : Option Char → Bool
  | none => true
  | some c => isBreak c

def isAllowed (c : Char) : Bool :=
  let n := c.toNat
  n == 9 || n == 10 || n == 13 || (32 ≤ n && n ≤ 126) || n == 0x85 || (0xa0 ≤ n && n ≤ 0xd7ff) ||
    (0xe000 ≤ n && n ≤ 0xfffd) || 0x10000 ≤ n

structure Place where
  rest : List Char
  /-- more than the number of characters of the whole text, which bounds every walk -/
  bound : Nat
  index : Nat := 0
  line : Nat := 0
  column : Nat := 0

namespace Place

def peek (p : Place) : Option Char := p.rest.head?

/-- One character further; a byte order mark takes no column. -/
def step (p : Place) : Place :=
  match p.rest with
  | [] => p
  | c :: rest =>
      if isBreak c && !(c == '\r' && rest.head? == some '\n') then
        ⟨rest, p.bound, p.index + 1, p.line + 1, 0⟩
      else
        ⟨rest, p.bound, p.index + 1, p.line, if c.toNat == 0xfeff then p.column else p.column + 1⟩

theorem step_rest (p : Place) : p.step.rest = p.rest.tail := by
  unfold step
  split <;> simp_all
  split <;> rfl

def steps (p : Place) : Nat → Place
  | 0 => p
  | n + 1 => p.step.steps n

/-- The characters ahead that satisfy a test, `taken` before them (latest first), and the place
after them. -/
def spanFrom (test : Char → Bool) (taken : List Char) (p : Place) : List Char × Place :=
  match _h : p.rest with
  | [] => (taken.reverse, p)
  | c :: _ => if test c then spanFrom test (c :: taken) p.step else (taken.reverse, p)
termination_by p.rest.length
decreasing_by simp [step_rest, _h]

def span (test : Char → Bool) (p : Place) : List Char × Place := spanFrom test [] p

def skip (test : Char → Bool) (p : Place) : Place := (p.span test).2

def skipSpaces (p : Place) : Place := p.skip (· == ' ')

def skipComment (p : Place) : Place :=
  if p.peek == some '#' then p.skip (!isBreak ·) else p

/-- A line end, as the text it stands for, and the place after it. The ASCII line ends and next line
stand for a line feed. -/
def lineEnd (p : Place) : List Char × Place :=
  match p.rest with
  | '\r' :: '\n' :: _ => (['\n'], p.step.step)
  | c :: _ =>
      if c == '\n' || c == '\r' || c.toNat == 0x85 then (['\n'], p.step)
      else if isBreak c then ([c], p.step)
      else ([], p)
  | [] => ([], p)

/-- Three equal marks with a gap after them, as they stand between documents. -/
def isSeparator (p : Place) : Bool :=
  match p.rest with
  | a :: b :: c :: rest =>
      ((a == '-' && b == '-' && c == '-') || (a == '.' && b == '.' && c == '.')) && isGap rest.head?
  | _ => false

def atSeparator (mark : Char) (p : Place) : Bool :=
  p.column == 0 && p.peek == some mark && p.isSeparator

end Place

end SourceAtlas.Yaml
