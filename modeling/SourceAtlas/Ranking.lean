import SourceAtlas.Adapter
import SourceAtlas.Entry
import SourceAtlas.Rule

/-!
The score of a file and the choice of candidates: higher scores first, paths breaking ties.
-/
namespace SourceAtlas

open Text

/-- Files near the root count more. -/
def depthBonus (depth : Int) : Int :=
  if depth = 0 then 60 else if depth = 1 then 40 else if depth = 2 then 20 else 0

def entrypointBonus : Int := 40

def configBonus : Int := 30

def generatedPenalty : Int := 100

def priorityBonus : Int := 50

/-- The score of an entry: what its language adds for the path, and fixed amounts for its flags, its
depth and priority rules. -/
def scoreOf (entry : Entry) (adapter : Option Adapter) (priority : List Rule) :
    Except String Int := do
  let modifier ← match adapter with
    | some adapter =>
        adapter.modifier entry.path entry.depth entry.isEntrypoint entry.isConfig
    | none => pure 0
  let flag := fun (b : Bool) (amount : Int) => if b then amount else 0
  return modifier + flag entry.isEntrypoint entrypointBonus + flag entry.isConfig configBonus +
    depthBonus entry.depth - flag entry.isGenerated generatedPenalty +
    flag (priority.any (·.holds entry.path false)) priorityBonus

def ranksBefore (a b : Entry) : Bool :=
  b.score < a.score || (a.score = b.score && precedes a.path b.path)

/-- Entries with the best first. -/
def rank (entries : List Entry) : List Entry := entries.mergeSort ranksBefore

def selectCandidates (entries : List Entry) (limit : Int) : List Entry :=
  (rank entries).take limit.toNat

end SourceAtlas
