/-!
Sets of code points, kept as increasing disjoint intervals. The tables of the character classes are
long, so they are written packed: each interval is two decimal numbers, the distance from the end of
the interval before it and the distance from its own first point to its last.
-/
namespace SourceAtlas.Text

def decimals (text : String) : List Nat :=
  let step := fun (state : Option Nat × List Nat) (c : Char) =>
    if c.isDigit then (some (state.1.getD 0 * 10 + (c.toNat - 48)), state.2)
    else match state.1 with
      | some n => (none, n :: state.2)
      | none => state
  let state := text.toList.foldl step (none, [])
  match state.1 with
  | some n => (n :: state.2).reverse
  | none => state.2.reverse

/-- A set of code points as increasing, disjoint, closed intervals. -/
structure CodeSet where
  spans : Array (Nat × Nat)

namespace CodeSet

/-- The intervals that a list of distances describes, the last end being `last`. -/
def unpack (last : Nat) : List Nat → List (Nat × Nat)
  | gap :: width :: rest =>
      (last + gap, last + gap + width) :: unpack (last + gap + width) rest
  | _ => []

def ofPacked (text : String) : CodeSet :=
  ⟨(unpack 0 (decimals text)).toArray⟩

def within (spans : Array (Nat × Nat)) (n low high : Nat) : Bool :=
  if _h : low < high then
    let middle := (low + high) / 2
    match spans[middle]? with
    | none => false
    | some (first, last) =>
        if n < first then within spans n low middle
        else if last < n then within spans n (middle + 1) high
        else true
  else false
termination_by high - low

def contains (set : CodeSet) (c : Char) : Bool :=
  within set.spans c.toNat 0 set.spans.size

end CodeSet

end SourceAtlas.Text
