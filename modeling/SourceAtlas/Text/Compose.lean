import SourceAtlas.Text.Decomposition

/-!
Compatibility composition of a text: every character is decomposed in full, the marks after a base
are put into the order of their classes, and what composes is composed again.
-/
namespace SourceAtlas.Text

def runFor? (runs : Array DecompositionRun) (n low high : Nat) : Option DecompositionRun :=
  if _h : low < high then
    let middle := (low + high) / 2
    match runs[middle]? with
    | none => none
    | some run =>
        if n < run.first then runFor? runs n low middle
        else if run.first + run.extra < n then runFor? runs n (middle + 1) high
        else some run
  else none
termination_by high - low

/-- Hangul syllables are numbered by their three parts: the first consonant, the vowel, and the last
consonant or none. -/
def hangulBase : Nat := 0xac00

def hangulCount : Nat := 19 * 21 * 28

def hangulParts (syllable : Nat) : List Nat :=
  let first := 0x1100 + syllable / (21 * 28)
  let vowel := 0x1161 + syllable % (21 * 28) / 28
  let last := syllable % 28
  if last = 0 then [first, vowel] else [first, vowel, 0x11a7 + last]

def decompose (n : Nat) : List Nat :=
  if n < 128 then [n]
  else if hangulBase ≤ n && n < hangulBase + hangulCount then hangulParts (n - hangulBase)
  else match runFor? decompositions n 0 decompositions.size with
    | some run => run.apply n
    | none => [n]

theorem decompose_ne_nil (n : Nat) : decompose n ≠ [] := by
  unfold decompose
  split
  · exact List.cons_ne_nil _ _
  · split
    · unfold hangulParts
      dsimp only
      split <;> exact List.cons_ne_nil _ _
    · split
      · exact DecompositionRun.apply_ne_nil _ n
      · exact List.cons_ne_nil _ _

def combiningClass (n : Nat) : Nat :=
  if n < 0x300 then 0
  else ((combiningRuns.find? fun (first, last, _) => first ≤ n && n ≤ last).map (·.2.2)).getD 0

/-- Code points with their classes, the marks between two bases sorted by class. Marks of one class
keep their order. -/
def orderMarks (points : List (Nat × Nat)) : List (Nat × Nat) :=
  let flush := fun (marks : List (Nat × Nat)) => marks.reverse.mergeSort fun a b => a.2 ≤ b.2
  let (done, marks) := points.foldl (fun (done, marks) point =>
    if point.2 = 0 then (point :: ((flush marks).reverse ++ done), []) else (done, point :: marks))
    (([] : List (Nat × Nat)), ([] : List (Nat × Nat)))
  done.reverse ++ flush marks

theorem orderMarks_ne_nil {points : List (Nat × Nat)} (filled : points ≠ []) :
    orderMarks points ≠ [] := by
  obtain ⟨front, last, rfl⟩ := (List.eq_nil_or_concat points).resolve_left filled
  unfold orderMarks
  dsimp only
  rw [List.concat_eq_append, List.foldl_append, List.foldl_cons, List.foldl_nil]
  split
  · simp
  · intro none
    have sizes := congrArg List.length none
    simp [List.length_mergeSort] at sizes

def composePair? (first second : Nat) : Option Nat :=
  if 0x1100 ≤ first && first < 0x1100 + 19 && 0x1161 ≤ second && second < 0x1161 + 21 then
    some (hangulBase + ((first - 0x1100) * 21 + (second - 0x1161)) * 28)
  else if hangulBase ≤ first && first < hangulBase + hangulCount &&
      (first - hangulBase) % 28 = 0 && 0x11a7 < second && second < 0x11a7 + 28 then
    some (first + (second - 0x11a7))
  else (compositionPairs.find? fun (a, b, _) => a = first && b = second).map (·.2.2)

/-- The state of composing: what is finished, latest first, the open base, the marks after it,
latest first, and the class of the latest. -/
structure Composing where
  done : List Nat := []
  base : Option Nat := none
  marks : List Nat := []
  latest : Nat := 0

namespace Composing

def flush (state : Composing) : List Nat := state.marks ++ state.base.toList ++ state.done

/-- Takes a code point. It meets the base only if no mark of its class or a higher one stands
between, and a base only if nothing does. -/
def take (state : Composing) (point : Nat × Nat) : Composing :=
  let (n, kind) := point
  let meets := state.marks.isEmpty || state.latest < kind
  match state.base.bind fun base => if meets then composePair? base n else none with
  | some composed => { state with base := some composed }
  | none =>
      if kind = 0 then { done := state.flush, base := some n }
      else if state.base.isNone then { state with done := n :: state.done }
      else { state with marks := n :: state.marks, latest := kind }

theorem flush_take_ne_nil (state : Composing) (point : Nat × Nat) :
    (state.take point).flush ≠ [] := by
  unfold take
  dsimp only
  split
  · simp [flush]
  · split
    · simp [flush]
    · split <;> simp [flush]

end Composing

def compose (text : String) : String :=
  if text.toList.all (·.toNat < 128) then text
  else
    let points :=
      (text.toList.flatMap fun c => decompose c.toNat).map fun n => (n, combiningClass n)
    let state := (orderMarks points).foldl Composing.take {}
    .ofList (state.flush.reverse.map Char.ofNat)

theorem compose_ne_empty {text : String} (filled : text ≠ "") : compose text ≠ "" := by
  have points : ((text.toList.flatMap fun c => decompose c.toNat).map fun n =>
      (n, combiningClass n)) ≠ [] := by
    obtain ⟨c, rest, begins⟩ := List.exists_cons_of_ne_nil
      (fun none => filled (String.toList_eq_nil_iff.mp none))
    rw [begins, List.flatMap_cons, ne_eq, List.map_eq_nil_iff, List.append_eq_nil_iff]
    exact fun none => decompose_ne_nil _ none.1
  obtain ⟨front, last, ends⟩ := (List.eq_nil_or_concat _).resolve_left (orderMarks_ne_nil points)
  unfold compose
  split
  · exact filled
  · dsimp only
    rw [ends, List.concat_eq_append, List.foldl_append, List.foldl_cons, List.foldl_nil, ne_eq,
      String.ofList_eq_empty_iff, List.map_eq_nil_iff, List.reverse_eq_nil_iff]
    exact Composing.flush_take_ne_nil _ last

end SourceAtlas.Text
