import SourceAtlas.Text.Lines

/-!
Slugs of repository names: runs of ASCII letters and digits with underscores between them.
-/
namespace SourceAtlas

open Text

structure Slugs where
  file : String
  symbol : String
  deriving BEq, DecidableEq, Repr

namespace Slugs

/-- The runs of ASCII letters and digits of a text; `run` holds the current one, latest first. -/
def runsFrom (run : List Char) : List Char → List (List Char)
  | [] => if run.isEmpty then [] else [run.reverse]
  | c :: rest =>
      if c.isAlphanum then runsFrom (c :: run) rest
      else if run.isEmpty then runsFrom [] rest
      else run.reverse :: runsFrom [] rest

def ofName (name : String) : Slugs :=
  let runs := match runsFrom [] name.toList with
    | [] => ["repo".toList]
    | runs => runs
  let joined := (['_'] : List Char).intercalate runs
  ⟨.ofList (joined.map Char.toLower), .ofList (joined.map Char.toUpper)⟩

end Slugs

end SourceAtlas
