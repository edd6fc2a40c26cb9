import SourceAtlas.Failure

/-!
Work that may fail and keeps a journal. What was noted before a failure stays noted.
-/
namespace SourceAtlas

abbrev Noted (α : Type) := ExceptT Failure (StateM Journal) α

namespace Noted

def note (record : Record) : Noted Unit := modify fun journal => journal ++ [record]

def noteAll (records : Journal) : Noted Unit := modify fun journal => journal ++ records

def fail {α : Type} (failure : Failure) : Noted α := throw failure

def ofPath {α : Type} : Except PathFault α → Noted α
  | .ok a => pure a
  | .error fault => fail (.path fault)

def ofOs {α : Type} : Except OsError α → Noted α
  | .ok a => pure a
  | .error error => fail (.os error)

/-- The result of the work and its journal. -/
def outcome {α : Type} (work : Noted α) : Except Failure α × Journal :=
  StateT.run (ExceptT.run work) []

end Noted

end SourceAtlas
