import SourceAtlas.Glob

/-!
Rules of ignore files. A rule is a shell pattern with marks: whether it holds for directories only,
whether it is anchored at the root, and whether it takes back an earlier rule. The last rule that
matches decides.
-/
namespace SourceAtlas

open Text

structure Rule where
  pattern : String
  directoryOnly : Bool
  anchored : Bool
  negated : Bool
  hasSlash : Bool
  deriving BEq, DecidableEq, Repr

namespace Rule

def isSlash (c : Char) : Bool := c == '/'

def build? (written : String) (negated : Bool) : Option Rule :=
  let text := trimChars isBlank written.toList
  if text.isEmpty then none
  else
    let directoryOnly := text.getLast? == some '/'
    let text := if directoryOnly then trimEnd isSlash text else text
    let anchored := text.head? == some '/'
    let text := if anchored then trimStart isSlash text else text
    some {
      pattern := .ofList text
      directoryOnly := directoryOnly
      anchored := anchored
      negated := negated
      hasSlash := text.contains '/' }

/-- Whether a rule holds for a relative path. A rule without a slash looks at each segment; others
look at the whole path, and where they name a directory also at what lies below it. -/
def holds (rule : Rule) (path : String) (isDirectory : Bool) : Bool :=
  if rule.pattern.isEmpty then false
  else if rule.directoryOnly && !isDirectory then false
  else if rule.anchored || rule.hasSlash then
    globMatches rule.pattern path || (rule.directoryOnly && startsWith path (rule.pattern ++ "/"))
  else (split '/' path).any (globMatches rule.pattern)

def ofLine? (line : String) : Option Rule :=
  match trimChars isBlank line.toList with
  | [] => none
  | '#' :: _ => none
  | '!' :: rest => build? (.ofList rest) true
  | text => build? (.ofList text) false

def ofText (text : String) : List Rule := (lines text).filterMap ofLine?

/-- Whether a path is ignored: the last rule that holds decides. -/
def ignores (rules : List Rule) (path : String) (isDirectory : Bool) : Bool :=
  rules.foldl (fun ignored rule => if rule.holds path isDirectory then !rule.negated else ignored)
    false

end Rule

end SourceAtlas
