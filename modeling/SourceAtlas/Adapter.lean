import SourceAtlas.Glob
import SourceAtlas.Journal
import SourceAtlas.Path
import SourceAtlas.Symbols
import SourceAtlas.Text.Case
import SourceAtlas.Text.Quoted
import SourceAtlas.Text.Utf8

/-!
Language adapters: what tells that a language is used, which of its files count, how their paths are
weighed, and how symbols are read. An adapter may come from outside, so weighing and reading may
fail.
-/
namespace SourceAtlas

open Text

/-- Symbols read from a file, with what there is to tell about the reading. -/
structure Extraction where
  table : SymbolTable
  notes : Journal := []

/-- What one language brings to a scan. -/
structure Adapter where
  /-- the kind of adapter, shown beside its name -/
  label : String
  name : String
  detectionFiles : List String := []
  extensions : List String := []
  ignoreDirs : List String := []
  ignoreGlobs : List String := []
  entrypoints : List String := []
  configs : List String := []
  /-- directory names with what they add to the score of the files below them -/
  pathBonuses : List (String × Int) := []
  /-- what else is added to the score for a path, its depth, and whether it is an entry point or a
  manifest, or the reason why that cannot be told -/
  adjust : String → Int → Bool → Bool → Except String Int := fun _ _ _ _ => .ok 0
  /-- the symbols of a file by its path and content, or the reason why there are none; the reading
  may nest so many calls -/
  read : Nat → String → Bytes → Except String Extraction

namespace Adapter

def shown (adapter : Adapter) : String :=
  adapter.label ++ "(name=" ++ quotedText adapter.name ++ ")"

def pathBonus (adapter : Adapter) (path : String) : Int :=
  let segments := (split '/' path).dropLast
  (adapter.pathBonuses.filter fun (segment, _) => segments.contains segment).foldl
    (fun sum (_, bonus) => sum + bonus) 0

def modifier (adapter : Adapter) (path : String) (depth : Int) (isEntrypoint isConfig : Bool) :
    Except String Int := do
  return adapter.pathBonus path + (← adapter.adjust path depth isEntrypoint isConfig)

/-- Whether the adapter handles an ending; case does not count. -/
def handles (adapter : Adapter) (ending : String) : Bool :=
  (adapter.extensions.map lower).contains ending

end Adapter

def unionOf (part : Adapter → List String) (adapters : List Adapter) : List String :=
  distinct (adapters.flatMap part)

def endingKey (name : String) : String := lower (Path.ofText name).ending

def adapterFor? (name : String) (adapters : List Adapter) : Option Adapter :=
  let ending := endingKey name
  if ending.isEmpty then none else adapters.find? (·.handles ending)

def byName (adapters : List Adapter) : List Adapter :=
  adapters.mergeSort fun a b => precedes a.name b.name

end SourceAtlas
